import TunnelBroker.Client.Launch
import TunnelBroker.Proofs.ControlSocket
import TunnelBroker.Proofs.Host.Persistence
import TunnelBroker.Simulation.ScriptedDaemon

/-!
Waiting for a daemon to answer, and waiting for one to be gone. Main statement: however long pings
take and however they end, a client that has launched a daemon goes on until a ping is answered or
has failed when the time is up, and one that has a daemon stop goes on until a ping fails or is
answered when the time is up. Both ping no more often than their intervals allow.
-/

set_option autoImplicit false

namespace TunnelBroker

open Host (KeepsTime Attempts)

variable {σ : Type} {handler : Interaction.Handler Host.Call Host.Call.Answer σ} {time : σ → Nat}

namespace Client

/-! ### Pings -/

def requestCall (client : Client) (command : Command) : Host.Call :=
  .contact client.socket (commandBytes command) (some client.requestTimeout)

/-- Whether a call is a ping, whoever it goes to. -/
def isPing : Host.Call → Bool
  | .contact _ request _ => request == commandBytes .ping
  | _ => false

def pings (asked : List (Host.Call × σ)) : List (Host.Call × σ) :=
  asked.filter fun entry => isPing entry.1

def pingsIn (client : Client) (begun : List σ) : List (Host.Call × σ) :=
  begun.map fun state => (client.requestCall .ping, state)

variable {client : Client} {state : σ}

theorem asked_request (client : Client) (command : Command) (state : σ) :
    (client.request command).asked handler state = [(client.requestCall command, state)] := by
  have contacted : (client.exchange command [] (some client.requestTimeout)).asked handler state =
      [(client.requestCall command, state)] := by
    refine (Interaction.asked_bind_of_done (fun contact => ?_) handler state).trans ?_
    · cases contact <;> exact ⟨_, rfl⟩
    · rw [List.append_nil]
      rfl
  refine (Interaction.asked_bind_of_done (fun answer => ?_) handler state).trans contacted
  cases answer <;> exact ⟨_, rfl⟩

theorem asked_ping (client : Client) (state : σ) :
    client.ping.asked handler state = [(client.requestCall .ping, state)] := by
  refine (Interaction.asked_bind_of_done (fun answer => ?_) handler state).trans
    (client.asked_request .ping state)
  split <;> exact ⟨_, rfl⟩

theorem asked_kill (client : Client) (state : σ) :
    client.kill.asked handler state = [(client.requestCall .kill, state)] :=
  (Interaction.asked_bind_of_done (fun _ => ⟨_, rfl⟩) handler state).trans
    (client.asked_request .kill state)

theorem isPing_ping (client : Client) : isPing (client.requestCall .ping) = true :=
  beq_self_eq_true (commandBytes .ping)

theorem isPing_kill (client : Client) : isPing (client.requestCall .kill) = false := by
  show (commandBytes .kill == commandBytes .ping) = false
  decide

theorem pings_append (first second : List (Host.Call × σ)) :
    pings (first ++ second) = pings first ++ pings second :=
  List.filter_append ..

theorem pings_ping_cons (client : Client) (state : σ) (asked : List (Host.Call × σ)) :
    pings ((client.requestCall .ping, state) :: asked) =
      (client.requestCall .ping, state) :: pings asked :=
  List.filter_cons_of_pos client.isPing_ping

theorem pings_kill_cons (client : Client) (state : σ) (asked : List (Host.Call × σ)) :
    pings ((client.requestCall .kill, state) :: asked) = pings asked :=
  List.filter_cons_of_neg (Bool.eq_false_iff.1 client.isPing_kill)

theorem pings_now_cons (state : σ) (asked : List (Host.Call × σ)) :
    pings ((.now, state) :: asked) = pings asked :=
  List.filter_cons_of_neg Bool.false_ne_true

theorem pings_asked_ping (client : Client) (state : σ) :
    pings (client.ping.asked handler state) = client.pingsIn [state] := by
  rw [asked_ping, pings_ping_cons]
  rfl

theorem pings_eq_nil {α : Type} {task : Host.Task α}
    (puts : task.Puts fun call => isPing call = false) (state : σ) :
    pings (task.asked handler state) = [] :=
  List.filter_eq_nil_iff.2 fun _ member => by simp [puts.of_mem_asked member]

/-! ### Waiting for an answer -/

theorem launch_puts (config : Config) : (launch config).Puts fun call => isPing call = false := by
  have quiet : (Host.ofFiles (openLog config.settings)).Puts fun call => isPing call = false :=
    Host.ofFiles_puts (Interaction.puts_of_forall (fun _ => rfl) _)
  refine quiet.bind fun opened => ?_
  cases opened with
  | error failure => trivial
  | ok log =>
    refine Interaction.puts_call rfl fun started => Interaction.puts_call rfl fun _ => ?_
    cases started <;> trivial

/-- A client whose ping fails launches a daemon, and has done so in this state. -/
def Launches (handler : Interaction.Handler Host.Call Host.Call.Answer σ) (config : Config)
    (state start : σ) : Prop :=
  ∃ reason before, (ofConfig config).ping.run handler state = (.error reason, before) ∧
    (launch config).run handler before = (.ok (), start)

variable (handler time) in
/--
How a client comes by a daemon: the states in which it pings after its first ping, what comes of
it, and in which state.
-/
inductive Establishes (config : Config) (state : σ) : List σ → Except Fault Client × σ → Prop where
  | running {process : UInt32} {after : σ}
    (answered : (ofConfig config).ping.run handler state = (.ok process, after)) :
    Establishes config state [] (.ok (ofConfig config), after)
  | unlaunched {reason failure : Failure} {before after : σ}
    (silent : (ofConfig config).ping.run handler state = (.error reason, before))
    (failed : (launch config).run handler before = (.error failure, after)) :
    Establishes config state [] (.error (.failed failure), after)
  | uncountable {start : σ} (launched : Launches handler config state start)
    (beyond : endOfTime ≤ time start + config.settings.spawnTimeout.nanoseconds) :
    Establishes config state [] (.error .outOfTime, (handler .now start).2)
  | answered {process : UInt32} {start last after : σ} {earlier : List σ}
    (launched : Launches handler config state start)
    (failed : Host.Fail handler time (ofConfig config).ping
      (time start + config.settings.spawnTimeout.nanoseconds) earlier)
    (answered : (ofConfig config).ping.run handler last = (.ok process, after)) :
    Establishes config state (earlier ++ [last]) (.ok (ofConfig config), after)
  | timedOut {failure : Failure} {start last after : σ} {earlier : List σ}
    (launched : Launches handler config state start)
    (failed : Host.Fail handler time (ofConfig config).ping
      (time start + config.settings.spawnTimeout.nanoseconds) earlier)
    (unanswered : (ofConfig config).ping.run handler last = (.error failure, after))
    (late : time start + config.settings.spawnTimeout.nanoseconds ≤ time after) :
    Establishes config state (earlier ++ [last])
      (.error (.failed (silence (ofConfig config) config.settings.spawnTimeout failure)),
        (handler .now after).2)

/-- What a client makes of the last ping that it waits for. -/
def awaited (client : Client) (timeout : Duration) : Except Failure UInt32 → Except Fault Unit
  | .ok _ => .ok ()
  | .error failure => .error (.failed (silence client timeout failure))

theorem launchInterval_pos : 0 < launchInterval.nanoseconds := by decide

theorem awaitAnswer_eq (client : Client) (timeout : Duration) :
    client.awaitAnswer timeout = .ask .now fun time =>
      if endOfTime ≤ time + timeout.nanoseconds then .done (.error .outOfTime)
      else (Host.persist launchInterval launchInterval_pos client.ping
        (time + timeout.nanoseconds) time).bind fun result =>
          .done (client.awaited timeout result) := by
  refine congrArg (Interaction.ask _) (funext fun time => ?_)
  refine ite_congr rfl (fun _ => rfl) fun _ =>
    congrArg (Interaction.bind _) (funext fun result => ?_)
  cases result <;> rfl

def follow (config : Config) : Except Failure Unit → Host.Task (Except Fault Client)
  | .error failure => .done (.error (.failed failure))
  | .ok _ => ((ofConfig config).awaitAnswer config.settings.spawnTimeout).bind fun result =>
    .done (result.map fun _ => ofConfig config)

def greet (config : Config) : Except Failure UInt32 → Host.Task (Except Fault Client)
  | .ok _ => .done (.ok (ofConfig config))
  | .error _ => (launch config).bind (follow config)

theorem establish_eq (config : Config) :
    establish config = (ofConfig config).ping.bind (greet config) := by
  refine congrArg (Interaction.bind _) (funext fun answer => ?_)
  cases answer with
  | ok process => rfl
  | error reason =>
    refine congrArg (Interaction.bind _) (funext fun launched => ?_)
    cases launched <;> rfl

-- What a series of attempts to ping comes to that begins when the time has been told.
theorem polls (keeps : KeepsTime handler time) {α ε : Type} {attempt : Host.Task (Except ε α)}
    (single : ∀ state, attempt.asked handler state = [(client.requestCall .ping, state)])
    {interval : Duration} (positive : 0 < interval.nanoseconds) (timeout : Duration) (start : σ) :
    let task := Host.persist interval positive attempt (time start + timeout.nanoseconds)
      (time start)
    let told := (handler .now start).2
    ∃ earlier last, pings (task.asked handler told) = client.pingsIn (earlier ++ [last]) ∧
      (earlier ++ [last]).length ≤ timeout.nanoseconds ⌈/⌉ interval.nanoseconds + 1 ∧
      Host.Fail handler time attempt (time start + timeout.nanoseconds) earlier ∧
      Host.Ends handler time attempt (time start + timeout.nanoseconds) last
        (task.run handler told) := by
  intro task told
  have later : time start ≤ time told := keeps.forward .now start
  have persists : ∃ begun, Attempts handler time attempt interval
      (time start + timeout.nanoseconds) told begun (task.asked handler told)
      (task.run handler told) := Host.attempts_persist keeps positive later
  obtain ⟨begun, attempts⟩ := persists
  obtain ⟨earlier, last, rfl, failed, ends⟩ := attempts.ends
  refine ⟨earlier, last, attempts.filter_asked single (isPing_ping client) rfl rfl, ?_, failed,
    ends⟩
  -- The clock may have gone on while it was read.
  have left : time start + timeout.nanoseconds - time told ≤ timeout.nanoseconds := by omega
  exact (attempts.length_le keeps positive).trans
    (Nat.add_le_add_right ((gc_smul_ceilDiv positive).monotone_l left) 1)

theorem exists_establishes (keeps : KeepsTime handler time) (config : Config) (state : σ) :
    ∃ later, pings ((establish config).asked handler state) =
        (ofConfig config).pingsIn (state :: later) ∧
      later.length ≤
        config.settings.spawnTimeout.nanoseconds ⌈/⌉ launchInterval.nanoseconds + 1 ∧
      Establishes handler time config state later ((establish config).run handler state) := by
  rw [establish_eq, Interaction.asked_bind, Interaction.run_bind, pings_append, pings_asked_ping]
  rcases answer : (ofConfig config).ping.run handler state with ⟨reason | process, before⟩
  case ok => exact ⟨[], rfl, Nat.zero_le _, .running answer⟩
  dsimp only
  rw [greet, Interaction.asked_bind, Interaction.run_bind, pings_append,
    pings_eq_nil (launch_puts config)]
  rcases outcome : (launch config).run handler before with ⟨failure | ⟨⟩, start⟩
  case error => exact ⟨[], rfl, Nat.zero_le _, .unlaunched answer outcome⟩
  have launched : Launches handler config state start := ⟨reason, before, answer, outcome⟩
  dsimp only
  rw [follow, Interaction.asked_bind_of_done (fun _ => ⟨_, rfl⟩), Interaction.run_bind,
    awaitAnswer_eq, Interaction.asked_ask, Interaction.run_ask, keeps.told]
  split
  case isTrue beyond => exact ⟨[], rfl, Nat.zero_le _, .uncountable launched beyond⟩
  case isFalse =>
    obtain ⟨earlier, last, pinged, few, failed, ends⟩ := polls keeps
      (asked_ping (ofConfig config)) launchInterval_pos config.settings.spawnTimeout start
    refine ⟨earlier ++ [last], ?_, few, ?_⟩
    · rw [Interaction.asked_bind_of_done (fun _ => ⟨_, rfl⟩), pings_now_cons, pinged]
      rfl
    · rw [Interaction.run_bind]
      generalize Interaction.run _ _ _ = result at ends
      cases ends with
      | succeeded answered => exact .answered launched failed answered
      | lapsed unanswered late => exact .timedOut launched failed unanswered late

end Client

namespace ControlSocket

open Client (pings pingsIn)

variable {client : Client} {path : Path} {state after : σ}

/-! ### Waiting for silence -/

/-- No answer is what is waited for. -/
def silent : Except Failure UInt32 → Except Unit Unit
  | .ok _ => .error ()
  | .error _ => .ok ()

theorem isGone_eq (client : Client) :
    isGone client = client.ping.bind fun answer => .done (silent answer) := by
  refine congrArg (Interaction.bind _) (funext fun answer => ?_)
  cases answer <;> rfl

theorem asked_isGone (client : Client) (state : σ) :
    (isGone client).asked handler state = [(client.requestCall .ping, state)] := by
  rw [isGone_eq, Interaction.asked_bind_of_done (fun _ => ⟨_, rfl⟩), client.asked_ping]

theorem run_isGone (client : Client) (state : σ) :
    (isGone client).run handler state =
      (client.ping.run handler state).map silent id := by
  rw [isGone_eq, Interaction.run_bind]
  rfl

theorem unanswered_of_run_isGone {value : Unit}
    (run : (isGone client).run handler state = (.ok value, after)) :
    ∃ failure, client.ping.run handler state = (.error failure, after) := by
  rw [run_isGone] at run
  rcases answer : client.ping.run handler state with ⟨failure | process, last⟩
  · rw [answer] at run
    cases run
    exact ⟨failure, rfl⟩
  · rw [answer] at run
    cases run

theorem answered_of_run_isGone {reason : Unit}
    (run : (isGone client).run handler state = (.error reason, after)) :
    ∃ process, client.ping.run handler state = (.ok process, after) := by
  rw [run_isGone] at run
  rcases answer : client.ping.run handler state with ⟨failure | process, last⟩
  · rw [answer] at run
    cases run
  · rw [answer] at run
    cases run
    exact ⟨process, rfl⟩

/-- Pings that begin in the given states are answered, and are so before the deadline. -/
def Stays (handler : Interaction.Handler Host.Call Host.Call.Answer σ) (time : σ → Nat)
    (client : Client) (deadline : Nat) (begun : List σ) : Prop :=
  ∀ state ∈ begun, ∃ process after,
    client.ping.run handler state = (.ok process, after) ∧ time after < deadline

theorem stays_of_fail {deadline : Nat} {begun : List σ}
    (failed : Host.Fail handler time (isGone client) deadline begun) :
    Stays handler time client deadline begun := by
  intro state member
  obtain ⟨_, after, run, early⟩ := failed state member
  obtain ⟨process, answered⟩ := answered_of_run_isGone run
  exact ⟨process, after, answered, early⟩

/-- A client whose ping is answered has asked the daemon to stop, and has done so in this state. -/
def Dismisses (handler : Interaction.Handler Host.Call Host.Call.Answer σ) (client : Client)
    (state before start : σ) : Prop :=
  ∃ process, client.ping.run handler state = (.ok process, before) ∧
    (client.kill.run handler before).2 = start

variable (handler time) in
/--
How a client has a daemon stop: all that it asks, the states in which it pings after it has asked
the daemon to stop, and in which state it ends.
-/
inductive Evicts (client : Client) (state : σ) : List (Host.Call × σ) → List σ → σ → Prop where
  | vacant {failure : Failure} {after : σ}
    (unanswered : client.ping.run handler state = (.error failure, after)) :
    Evicts client state (client.pingsIn [state]) [] after
  | gone {before start last after : σ} {earlier : List σ} {later : List (Host.Call × σ)}
    {failure : Failure} (dismissed : Dismisses handler client state before start)
    (pinged : pings later = client.pingsIn (earlier ++ [last]))
    (stayed : Stays handler time client (time start + evictionTimeout.nanoseconds) earlier)
    (unanswered : client.ping.run handler last = (.error failure, after)) :
    Evicts client state
      ((client.requestCall .ping, state) :: (client.requestCall .kill, before) :: later)
      (earlier ++ [last]) after
  | remains {before start last after : σ} {earlier : List σ} {later : List (Host.Call × σ)}
    {process : UInt32} (dismissed : Dismisses handler client state before start)
    (pinged : pings later = client.pingsIn (earlier ++ [last]))
    (stayed : Stays handler time client (time start + evictionTimeout.nanoseconds) earlier)
    (answered : client.ping.run handler last = (.ok process, after))
    (late : time start + evictionTimeout.nanoseconds ≤ time after) :
    Evicts client state
      ((client.requestCall .ping, state) :: (client.requestCall .kill, before) :: later)
      (earlier ++ [last]) (handler .now after).2

-- The pings that follow the first one are those that begin as told.
theorem Evicts.pings_eq {asked : List (Host.Call × σ)} {begun : List σ} {last : σ}
    (evicts : Evicts handler time client state asked begun last) :
    pings asked = client.pingsIn (state :: begun) := by
  cases evicts with
  | vacant => exact Client.pings_ping_cons client state []
  | gone _ pinged | remains _ pinged =>
    rw [Client.pings_ping_cons, Client.pings_kill_cons, pinged]
    rfl

theorem evictionInterval_pos : 0 < evictionInterval.nanoseconds := by decide

def awaitSilence (client : Client) : Host.Task Unit :=
  .ask .now fun time => (Host.persist evictionInterval evictionInterval_pos (isGone client)
    (time + evictionTimeout.nanoseconds) time).bind fun _ => .done ()

def dismiss (client : Client) : Except Failure UInt32 → Host.Task Unit
  | .error _ => .done ()
  | .ok _ => client.kill.bind fun _ => awaitSilence client

theorem evict_eq (path : Path) :
    evict path = (Client.ofSocket path).ping.bind (dismiss (Client.ofSocket path)) := by
  refine congrArg (Interaction.bind _) (funext fun answer => ?_)
  cases answer <;> rfl

-- The timeout holds 80 intervals.
theorem evictionTimeout_ceilDiv :
    evictionTimeout.nanoseconds ⌈/⌉ evictionInterval.nanoseconds = 80 := by
  rw [Nat.ceilDiv_eq_add_pred_div]
  decide

theorem exists_evicts (keeps : KeepsTime handler time) (path : Path) (state : σ) :
    ∃ begun : List σ, begun.length ≤ 81 ∧
      Evicts handler time (Client.ofSocket path) state ((evict path).asked handler state) begun
        ((evict path).run handler state).2 := by
  rw [evict_eq, Interaction.asked_bind, Interaction.run_bind, Client.asked_ping]
  generalize Client.ofSocket path = client
  rcases answer : client.ping.run handler state with ⟨failure | process, before⟩
  case error => exact ⟨[], Nat.zero_le _, .vacant answer⟩
  dsimp only
  rw [dismiss, Interaction.asked_bind, Interaction.run_bind, Client.asked_kill, awaitSilence]
  generalize killed : (client.kill.run handler before).2 = start
  have dismissed : Dismisses handler client state before start := ⟨process, answer, killed⟩
  rw [Interaction.asked_ask, Interaction.run_ask,
    Interaction.asked_bind_of_done (fun _ => ⟨_, rfl⟩), Interaction.run_bind, keeps.told]
  obtain ⟨earlier, last, pinged, few, failed, ends⟩ := Client.polls keeps (asked_isGone client)
    evictionInterval_pos evictionTimeout start
  rw [evictionTimeout_ceilDiv] at few
  have polled := (Client.pings_now_cons start _).trans pinged
  refine ⟨earlier ++ [last], few, ?_⟩
  generalize Interaction.run _ _ _ = result at ends
  cases ends with
  | succeeded run =>
    obtain ⟨failure, unanswered⟩ := unanswered_of_run_isGone run
    exact .gone dismissed polled (stays_of_fail failed) unanswered
  | lapsed run late =>
    obtain ⟨process, answered⟩ := answered_of_run_isGone run
    exact .remains dismissed polled (stays_of_fail failed) answered late

end ControlSocket

open ControlSocket (Evicts evict)
open Client (Establishes establish)

/-! ### Both -/

/--
Whatever answers a client and however long that takes, it stops waiting for a daemon that it has
launched or asked to stop at the first ping that ends as it should, or else at the first one that
ends when the time is up. It pings once for every interval that has begun until then, and once
more, at most.
-/
theorem polling_ends (keeps : KeepsTime handler time) (config : Config) (path : Path)
    (state : σ) :
    (∃ begun, Client.pings ((establish config).asked handler state) =
        (Client.ofConfig config).pingsIn (state :: begun) ∧
      begun.length ≤
        config.settings.spawnTimeout.nanoseconds ⌈/⌉ Client.launchInterval.nanoseconds + 1 ∧
      Establishes handler time config state begun ((establish config).run handler state)) ∧
    ∃ begun : List σ, begun.length ≤ 81 ∧
      Evicts handler time (Client.ofSocket path) state ((evict path).asked handler state) begun
        ((evict path).run handler state).2 :=
  ⟨Client.exists_establishes keeps config state, ControlSocket.exists_evicts keeps path state⟩

namespace Simulation.ScriptedDaemon

theorem keepsTime_react : KeepsTime react (·.clock) where
  forward call state := by
    cases call with
    | contact path request limit =>
      show state.clock ≤ (state.contact path request limit).2.clock
      rw [contact]
      split
      · exact Nat.le_refl _
      · exact Nat.le_add_right _ _
    | sleep span => exact Nat.le_add_right _ _
    | file | now | start => exact Nat.le_refl _
  told state := rfl
  slept span state := Nat.le_refl _

/-- Somebody answers at `/d/socket` for ever. -/
def stubborn : ScriptedDaemon where
  files := {
    nodes := [([], ⟨0, .directory, 0o755, 0⟩), ([Text.encode "d"], ⟨1, .directory, 0o700, 1000⟩),
      ([Text.encode "d", Text.encode "socket"], ⟨2, .socket, 0o600, 1000⟩)]
    held := [2]
    user := 1000 }
  clock := 0
  replies := [.ofBytes (Text.encode "pong 1\n") .closed]
  received := []

/-- A daemon has 120 ms to answer at `/d/new`. -/
def hasty : Config where
  settings := ⟨.ofText "/d/new", .ofText "/d", "iad", .ofMilliseconds 120, none⟩
  memberships := .empty
  source := none

end Simulation.ScriptedDaemon

open Simulation.ScriptedDaemon (react stubborn hasty)

-- Where pings take no time and nobody does what is waited for, there are as many as there can be.
theorem polling_ends_at_last :
    Host.KeepsTime react (·.clock) ∧
      (∃ begun, Client.pings ((establish hasty).asked react stubborn) =
          (Client.ofConfig hasty).pingsIn (stubborn :: begun) ∧ begun.length = 4 ∧
        Establishes react (·.clock) hasty stubborn begun ((establish hasty).run react stubborn)) ∧
      ∃ begun, begun.length = 81 ∧
        Evicts react (·.clock) (.ofSocket (.ofText "/d/socket")) stubborn
          ((evict (.ofText "/d/socket")).asked react stubborn) begun
          ((evict (.ofText "/d/socket")).run react stubborn).2 := by
  have keeps := Simulation.ScriptedDaemon.keepsTime_react
  obtain ⟨⟨tried, pinged, _, establishes⟩, asked, _, evicts⟩ :=
    polling_ends keeps hasty (.ofText "/d/socket") stubborn
  refine ⟨keeps, ⟨tried, pinged, ?_, establishes⟩, asked, ?_, evicts⟩
  · have five : (Client.pings ((establish hasty).asked react stubborn)).length = 5 := by
      decide +kernel
    rw [pinged, Client.pingsIn, List.length_map, List.length_cons] at five
    exact Nat.succ.inj five
  · have all : (Client.pings ((evict (.ofText "/d/socket")).asked react stubborn)).length = 82 := by
      decide +kernel
    rw [evicts.pings_eq, Client.pingsIn, List.length_map, List.length_cons] at all
    exact Nat.succ.inj all

end TunnelBroker
