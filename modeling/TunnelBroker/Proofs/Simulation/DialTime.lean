import TunnelBroker.Proofs.Daemon.Effect
import TunnelBroker.Proofs.Simulation.Lapse

/-!
When a dial ends. Main statement: it takes the time of the lookup, if there is one, and then the
time of the session's dial or that of the timeout, whichever is shorter.
-/

set_option autoImplicit false

namespace TunnelBroker.Simulation

/-! ### The parts of a dial -/

/-- What resolving an address comes to, how long it takes, and what is seen of it. -/
structure Resolution where
  result : Except Failure SocketAddress
  delay : Nat
  seen : List Event

/-- Only a name is looked up. A malformed address is refused, and a literal is its own. -/
def Script.resolution (script : Script) (network : Network) (address : String) : Resolution :=
  match HostPort.parse address with
  | .error failure => ⟨.error failure, 0, []⟩
  | .ok parts =>
    match IpAddress.parse? parts.host with
    | some ip => ⟨.ok ⟨ip, parts.port⟩, 0, []⟩
    | none =>
      let lookup := (script.network network).lookup parts.host
      ⟨(Network.chooseAddress parts.host lookup.answer).map fun ip => ⟨ip, parts.port⟩,
        lookup.delay, [.lookup network parts.host]⟩

/-- The own result of a dial that completes, and how long it takes. -/
def DialScript.ending? (dial : DialScript) : Option (Except Failure Relay.FarEnd × Nat) :=
  match dial.result with
  | .fails failure => some (.error failure, dial.delay)
  | .hangs => none
  | .connects behavior => some (.ok behavior.farEnd, dial.delay)

variable {script : Script} {network : Network}

theorem clocked_lookup (host : String) (time : Nat) (world : World) :
    let lookup := (script.network network).lookup host
    clocked script (.lookup network host) (time, world) =
      (some lookup.answer, time + lookup.delay, world.see [.lookup network host]) := by
  intro lookup
  have arrives : (world.react script (.lookup network host)).1.arrival? =
      some (lookup.answer, lookup.delay) := Reaction.arrival?_after _ _
  exact clocked_answered arrives time

theorem attend_resolve (address : String) (time : Nat) (world : World) :
    (network.resolve address).attend (clocked script) (time, world) =
      (some (script.resolution network address).result,
        time + (script.resolution network address).delay,
        world.see (script.resolution network address).seen) := by
  cases parsed : HostPort.parse address with
  | error failure =>
    simp only [Network.resolve, Script.resolution, parsed]
    rfl
  | ok parts =>
    cases written : IpAddress.parse? parts.host with
    | some ip =>
      simp only [Network.resolve, Script.resolution, parsed, written]
      rfl
    | none =>
      simp only [Network.resolve, Script.resolution, parsed, written]
      exact Interaction.attend_ask (clocked_lookup parts.host time world) _

namespace Reaction

variable {α : Type} {reaction : Reaction α}

theorem inTime_of_arrival {budget : Option Duration} {answer : α} {delay : Nat}
    (arrives : reaction.arrival? = some (answer, delay))
    (soon : ∀ limit, budget = some limit → delay ≤ limit.timerMilliseconds) :
    InTime budget answer reaction := by
  obtain ⟨rfl, -⟩ | rfl := arrival?_eq_some_iff.1 arrives
  · exact .now
  · exact .later soon

theorem late_of_arrival {limit : Duration}
    (slow : ∀ answer delay, reaction.arrival? = some (answer, delay) →
      limit.timerMilliseconds < delay) : Late limit reaction := by
  cases reaction with
  | now given => exact absurd (slow given 0 rfl) (Nat.not_lt_zero _)
  | later wait given => exact .later (slow given wait rfl)
  | never => exact .never

end Reaction

/-- How a session answers a dial. -/
def DialScript.reaction (dial : DialScript) : Reaction DialAnswer :=
  World.slow dial.delay (World.dialAnswer dial.result)

theorem arrival?_reaction (dial : DialScript) :
    dial.reaction.arrival? = dial.ending?.map (Prod.map .ended id) := by
  unfold DialScript.reaction DialScript.ending? World.dialAnswer
  cases dial.result with
  | fails failure => exact Reaction.arrival?_after _ _
  | hangs => rfl
  | connects behavior => exact Reaction.arrival?_after _ _

section

variable {dial : DialScript} {timeout : Option Duration}

theorem arrival?_of_ending {result : Except Failure Relay.FarEnd} {delay : Nat}
    (ends : dial.ending? = some (result, delay))
    (soon : ∀ limit, timeout = some limit → delay ≤ limit.timerMilliseconds) :
    (dial.reaction.within timeout .expired).arrival? = some (.ended result, delay) := by
  have arrives : dial.reaction.arrival? = some (.ended result, delay) := by
    rw [arrival?_reaction, ends]
    rfl
  rw [(Reaction.inTime_of_arrival arrives soon).within]
  exact arrives

theorem arrival?_of_slow {limit : Duration} (slow : ∀ result delay,
    dial.ending? = some (result, delay) → limit.timerMilliseconds < delay) :
    (dial.reaction.within (some limit) .expired).arrival? =
      some (.expired, limit.timerMilliseconds) := by
  have late : Reaction.Late limit dial.reaction := by
    refine Reaction.late_of_arrival fun answer delay arrives => ?_
    rw [arrival?_reaction] at arrives
    obtain ⟨⟨result, wait⟩, ends, same⟩ := Option.map_eq_some_iff.1 arrives
    cases same
    exact slow _ _ ends
  rw [late.within]
  exact Reaction.arrival?_after _ _

theorem arrival?_of_hanging (hangs : dial.ending? = none) :
    (dial.reaction.within none .expired).arrival? = none := by
  have silent : dial.reaction = .never := by
    rw [← Reaction.arrival?_eq_none_iff, arrival?_reaction, hangs]
    rfl
  rw [silent]
  rfl

end

/-! ### One after the other -/

section

variable {address : String} {timeout : Option Duration} (time : Nat) (world : World)

theorem attend_dial_unresolved {failure : Failure}
    (unresolved : (script.resolution network address).result = .error failure) :
    (network.dial address timeout).attend (clocked script) (time, world) =
      (some (.error failure), time + (script.resolution network address).delay,
        world.see (script.resolution network address).seen) := by
  rw [Daemon.dial_eq, Interaction.attend_bind, attend_resolve, unresolved]
  rfl

variable {target : SocketAddress}

-- The timer of a dial is set when the lookup is over.
theorem attend_dial (resolved : (script.resolution network address).result = .ok target)
    {answer : DialAnswer} {delay : Nat}
    (arrives : (((script.network network).dial target).reaction.within timeout
      .expired).arrival? = some (answer, delay)) :
    (network.dial address timeout).attend (clocked script) (time, world) =
      (some (Daemon.report target answer),
        time + ((script.resolution network address).delay + delay),
        world.see ((script.resolution network address).seen ++ [.dial network target])) := by
  have reacts : ((world.see (script.resolution network address).seen).react script
      (.dial network target timeout)).1.arrival? = some (answer, delay) := arrives
  rw [Daemon.dial_eq, Interaction.attend_bind, attend_resolve, resolved, ← Nat.add_assoc,
    ← World.see_see]
  exact Interaction.attend_ask (clocked_answered reacts _) _

theorem attend_dial_unanswered
    (resolved : (script.resolution network address).result = .ok target)
    (silent : (((script.network network).dial target).reaction.within timeout
      .expired).arrival? = none) :
    ((network.dial address timeout).attend (clocked script) (time, world)).1 = none := by
  have reacts : ((world.see (script.resolution network address).seen).react script
      (.dial network target timeout)).1.arrival? = none := silent
  rw [Daemon.dial_eq, Interaction.attend_bind, attend_resolve, resolved]
  exact congrArg Prod.fst (Interaction.attend_ask_unanswered (clocked_unanswered reacts _) _)

end

/-! ### What comes of it -/

section

variable {timeout : Option Duration} {address : String}
  (tell : Except Failure Relay.FarEnd → Outcome)

theorem attend_tell {state after : Nat × World} {result : Option (Except Failure Relay.FarEnd)}
    (attended : (network.dial address timeout).attend (clocked script) state = (result, after)) :
    (tell <$> network.dial address timeout).attend (clocked script) state =
      (result.map tell, after) := by
  show ((network.dial address timeout).bind fun result => .done (tell result)).attend _ _ = _
  rw [Interaction.attend_bind, attended]
  cases result <;> rfl

theorem tell_outward : (tell <$> network.dial address timeout).Puts Daemon.Call.IsOutward :=
  ((Daemon.dial_connecting network address timeout).imp
    fun _ connecting => connecting.isOutward).bind fun _ => trivial

theorem resolve_asksAtMost (network : Network) (address : String) :
    (network.resolve address).AsksAtMost 1 := by
  unfold Network.resolve
  split
  · exact Interaction.asksAtMost_done _ _
  · split
    · exact Interaction.asksAtMost_done _ _
    · exact fun _ => Interaction.asksAtMost_done _ _

theorem tell_asksAtMost : (tell <$> network.dial address timeout).AsksAtMost 2 := by
  have dialing : (network.dial address timeout).AsksAtMost 2 := by
    rw [Daemon.dial_eq]
    show Interaction.AsksAtMost (1 + 1) _
    refine (resolve_asksAtMost network address).bind fun resolved => ?_
    cases resolved with
    | error failure => exact Interaction.asksAtMost_done 1 _
    | ok target => exact fun _ => Interaction.asksAtMost_done 0 _
  exact dialing.bind fun _ => Interaction.asksAtMost_done 0 _

variable {tell} {schedule : Schedule} {task : Nat}

/--
Resolving comes first, and the timeout does not count for it. If it fails, the dial fails with it
and nothing is dialed. Otherwise the dial ends with its own result if that has come when the timer
fires, also on a tie, and with the failure of the timeout if it has not. A timer counts whole
milliseconds, so a timeout is rounded up to the next one. Without a timeout, a dial that does not
complete never ends. How the result is told, by `tell`, makes no difference.
-/
theorem dial_takes_its_time (script : Script) (network : Network) (address : String)
    (timeout : Option Duration) (alone : schedule.IsAlone task)
    (plain : ∀ result, (tell result).IsPlain) :
    let body := tell <$> network.dial address timeout
    let resolution := script.resolution network address
    (∀ failure, resolution.result = .error failure →
      schedule.EndsAfter script task body (tell (.error failure)) resolution.delay
        resolution.seen) ∧
    ∀ target, resolution.result = .ok target →
      let dial := (script.network network).dial target
      let seen := resolution.seen ++ [.dial network target]
      (∀ result delay, dial.ending? = some (result, delay) →
        (∀ limit, timeout = some limit → delay ≤ limit.timerMilliseconds) →
        schedule.EndsAfter script task body (tell result) (resolution.delay + delay) seen) ∧
      (∀ limit, timeout = some limit →
        (∀ result delay, dial.ending? = some (result, delay) →
          limit.timerMilliseconds < delay) →
        schedule.EndsAfter script task body (tell (.error (Network.timeoutFailure target)))
          (resolution.delay + limit.timerMilliseconds) seen) ∧
      (timeout = none → dial.ending? = none → schedule.NeverEnds script task body) := by
  intro body resolution
  have outward : body.Puts Daemon.Call.IsOutward := tell_outward tell
  have few : body.AsksAtMost 2 := tell_asksAtMost tell
  have enough : 2 * 2 ≤ Schedule.stepsPerTask := by decide
  have returns : body.Returns Outcome.IsPlain := Interaction.returns_bind fun result => plain result
  -- Where a walk with the clock gets to an end, the task ends then.
  have ends {result : Except Failure Relay.FarEnd} {delay : Nat} {seen : List Event}
      (attended : (network.dial address timeout).attend (clocked script)
        (schedule.clock, schedule.world) =
          (some result, schedule.clock + delay, schedule.world.see seen)) :
      schedule.EndsAfter script task body (tell result) delay seen :=
    alone.endsAfter outward returns few enough (attend_tell tell attended)
  refine ⟨fun failure unresolved => ends (attend_dial_unresolved _ _ unresolved),
    fun target resolved => ?_⟩
  intro dial seen
  refine ⟨fun result delay completes soon => ?_, fun limit timed slow => ?_,
    fun untimed hangs => ?_⟩
  · exact ends (attend_dial _ _ resolved (arrival?_of_ending completes soon))
  · subst timed
    exact ends (attend_dial _ _ resolved (arrival?_of_slow slow))
  · subst untimed
    refine alone.neverEnds outward few enough ?_
    have stays := attend_dial_unanswered schedule.clock schedule.world resolved
      (arrival?_of_hanging hangs)
    rw [attend_tell tell (Prod.ext stays rfl)]
    rfl

end

/-- A name that takes long to look up, and two addresses that answer after a while. -/
def slowNetworks : Script where
  directory := .scripted (.ok []) [] 0
  provider := ⟨[], 0, false⟩
  tunnel := ⟨[], []⟩
  host :=
    ⟨[("db.internal", ⟨.ok [.v4 ⟨10, 0, 0, 7⟩], 200⟩)],
      [("10.0.0.7:80", ⟨.connects .echo, 500⟩), ("10.0.0.9:80", ⟨.connects .echo, 1⟩)]⟩
  environment := ⟨none, none⟩

theorem slow_name_leaves_timeout :
    let after := (Schedule.initial ∅).call slowNetworks
      (Task.dialIn .host "db.internal:80" (some (.ofMilliseconds 100)))
    after.1 = some (.dialed (.error (.dial "dial tcp 10.0.0.7:80: i/o timeout"))) ∧
      after.2.clock = 300 ∧
      after.2.events =
        [.lookup .host "db.internal", .dial .host ⟨.v4 ⟨10, 0, 0, 7⟩, 80⟩] := by
  let tell (result : Except Failure Relay.FarEnd) : Outcome := .dialed (result.map fun _ => ())
  have alone : (Schedule.initial ∅).fresh.IsAlone 0 := ⟨rfl, rfl, rfl⟩
  have plain (result : Except Failure Relay.FarEnd) : (tell result).IsPlain := nofun
  have resolves : slowNetworks.resolution .host "db.internal:80" =
      ⟨.ok ⟨.v4 ⟨10, 0, 0, 7⟩, 80⟩, 200, [.lookup .host "db.internal"]⟩ := by rfl
  have dials : (slowNetworks.network .host).dial ⟨.v4 ⟨10, 0, 0, 7⟩, 80⟩ =
      ⟨.connects .echo, 500⟩ := by rfl
  have timed := (dial_takes_its_time slowNetworks .host "db.internal:80"
    (some (.ofMilliseconds 100)) alone plain).2 _ (congrArg Resolution.result resolves)
  rw [resolves, dials] at timed
  have expires := timed.2.1 (.ofMilliseconds 100) rfl fun _ _ completes => by
    cases completes
    decide
  exact expires.call (by decide)

def halfMillisecond : Duration := ⟨500000, by decide⟩

def Outcome.hasConnected : Outcome → Bool
  | .dialed (.ok _) => true
  | _ => false

theorem Outcome.hasConnected_iff (outcome : Outcome) :
    outcome.hasConnected = true ↔ outcome = .dialed (.ok ()) := by
  unfold hasConnected
  split
  · exact iff_of_true rfl rfl
  · next other => exact iff_of_false Bool.false_ne_true (other ())

-- The dial takes longer than its timeout, but no longer than the millisecond that this is in.
theorem half_millisecond_waits_for_whole :
    let after := (Schedule.initial ∅).call slowNetworks
      (Task.dialIn .host "10.0.0.9:80" (some halfMillisecond))
    halfMillisecond.nanoseconds < 1 * 1000000 ∧ after.1 = some (.dialed (.ok ())) ∧
      after.2.clock = 1 := by
  refine ⟨by decide, ?_, by decide +kernel⟩
  have connects : ((Schedule.initial ∅).call slowNetworks
      (Task.dialIn .host "10.0.0.9:80" (some halfMillisecond))).1.any (·.hasConnected) = true := by
    decide +kernel
  obtain ⟨outcome, ends, connected⟩ := (Option.any_eq_true ..).1 connects
  rw [ends, outcome.hasConnected_iff.1 connected]

end TunnelBroker.Simulation
