import TunnelBroker.Proofs.Client.Fidelity
import TunnelBroker.Proofs.Daemon.Connecting

/-!
What a connection may do, by the command that it carries. Main statement: it puts the calls of its
command only, it gives the registry back whenever it has taken it, and it gives it back unchanged
unless it carries an `establish`.
-/

set_option autoImplicit false

namespace TunnelBroker

namespace Daemon

def Call.IsConnecting : Call → Prop
  | lookup .. => True
  | dial .. => True
  | _ => False

/--
A task that has got the registry which is given, or that has got none. It ends without one, it
takes one only if it has none, and it gives one back as `change` says. Its other calls are `allowed`.
-/
def Uses {α : Type} (change : Registry → Registry → Prop) (allowed : Call → Prop) :
    Option Registry → Task α → Prop
  | held, .done _ => held = none
  | held, .ask .takeRegistry next =>
    held = none ∧ ∀ registry, Uses change allowed (some registry) (next registry)
  | held, .ask (.returnRegistry given) next =>
    (∃ taken, held = some taken ∧ change taken given) ∧ Uses change allowed none (next ())
  | held, .ask call next => allowed call ∧ ∀ answer, Uses change allowed held (next answer)

section

variable {α β : Type} {change : Registry → Registry → Prop} {allowed : Call → Prop}
  {held : Option Registry}

theorem uses_ask_outward {call : Call} {next : call.Answer → Task α} (outward : call.IsOutward) :
    Uses change allowed held (.ask call next) ↔
      allowed call ∧ ∀ answer, Uses change allowed held (next answer) := by
  cases call with
  | takeRegistry => exact outward.elim
  | returnRegistry registry => exact outward.elim
  | _ => exact Iff.rfl

theorem Uses.bind {first : Task α} {then' : α → Task β} (before : Uses change allowed held first)
    (after : ∀ value, Uses change allowed none (then' value)) :
    Uses change allowed held (first.bind then') := by
  induction first generalizing held with
  | done value =>
    cases show held = none from before
    exact after value
  | ask call next ih =>
    cases call with
    | takeRegistry => exact ⟨before.1, fun registry => ih registry (before.2 registry)⟩
    | returnRegistry registry => exact ⟨before.1, ih () before.2⟩
    | _ => exact ⟨before.1, fun answer => ih answer (before.2 answer)⟩

theorem uses_of_puts {task : Task α}
    (puts : task.Puts fun call => call.IsOutward ∧ allowed call) :
    Uses change allowed none task := by
  induction task with
  | done value => rfl
  | ask call next ih =>
    obtain ⟨⟨outward, put⟩, others⟩ := puts
    exact (uses_ask_outward outward).2 ⟨put, fun answer => ih answer (others answer)⟩

-- A task that leaves the registry alone may have it all the time.
theorem Uses.of_puts {first : Task α} {then' : α → Task β} {post : α → Prop}
    (puts : first.Puts fun call => call.IsOutward ∧ allowed call) (returns : first.Returns post)
    (after : ∀ value, post value → Uses change allowed held (then' value)) :
    Uses change allowed held (first.bind then') := by
  induction first with
  | done value => exact after value returns
  | ask call next ih =>
    obtain ⟨⟨outward, put⟩, others⟩ := puts
    exact (uses_ask_outward outward).2 ⟨put, fun answer => ih answer (others answer) (returns answer)⟩

theorem withRegistry_uses {work : Registry → Task (α × Registry)}
    (puts : ∀ registry, (work registry).Puts fun call => call.IsOutward ∧ allowed call)
    (returns : ∀ registry, (work registry).Returns fun outcome => change registry outcome.2) :
    Uses change allowed none (withRegistry work) := by
  refine ⟨rfl, fun registry => ?_⟩
  show Uses change allowed (some registry) ((work registry).bind _)
  refine Uses.of_puts (puts registry) (returns registry) fun outcome changed => ?_
  exact ⟨⟨registry, rfl, changed⟩, rfl⟩

end

/-! ### The commands -/

theorem dial_connecting (network : Network) (address : String) (budget : Option Duration) :
    (network.dial address budget).Puts Call.IsConnecting := by
  have resolving : (network.resolve address).Puts Call.IsConnecting := by
    unfold Network.resolve
    split
    · trivial
    · split
      · trivial
      · exact ⟨trivial, fun _ => trivial⟩
  rw [dial_eq]
  refine resolving.bind fun resolved => ?_
  cases resolved with
  | error failure => trivial
  | ok target => exact ⟨trivial, fun _ => trivial⟩

theorem Call.IsConnecting.isOutward {call : Call} (connecting : call.IsConnecting) :
    call.IsOutward := by
  cases call <;> trivial

end Daemon

namespace Stream

def Establishes (client : Stream) : Prop :=
  ∃ slug rest, client.incoming.Carries (.establish slug) rest

def Connects (client : Stream) : Prop :=
  ∃ target rest, client.incoming.Carries (.connect target) rest

def Kills (client : Stream) : Prop :=
  ∃ rest, client.incoming.Carries .kill rest

/-- A connection carries no command, or a `ping`. -/
def IsQuiet (client : Stream) : Prop :=
  ∀ command rest, client.incoming.Carries command rest → command = .ping

/-- What the command of a connection does to the registry. -/
def Changes (client : Stream) (before after : Registry) : Prop :=
  client.Establishes ∨ after = before

/-- What the command of a connection may ask the world outside the daemon. -/
def MayAsk (client : Stream) (call : Daemon.Call) : Prop :=
  client.Establishes ∧ call.IsEstablishing ∨ client.Connects ∧ call.IsConnecting

/-- The calls that the command of a connection may lead to. -/
inductive MayPut (client : Stream) : Daemon.Call → Prop where
  | asks {call : Daemon.Call} (asks : client.MayAsk call) : MayPut client call
  | stop (kills : client.Kills) : MayPut client .stop

theorem MayPut.kills {client : Stream} (put : client.MayPut .stop) : client.Kills := by
  cases put with
  | stop kills => exact kills
  | asks asks => rcases asks with ⟨-, establishing⟩ | ⟨-, connecting⟩ <;> contradiction

theorem MayPut.mayAsk {client : Stream} {call : Daemon.Call} (put : client.MayPut call)
    (other : call ≠ .stop) : client.MayAsk call := by
  cases put with
  | asks asks => exact asks
  | stop => exact absurd rfl other

theorem MayAsk.establishes {client : Stream} {peers : Peers}
    (asks : client.MayAsk (.savePeers peers)) : client.Establishes := by
  rcases asks with ⟨establishes, -⟩ | ⟨-, connecting⟩
  · exact establishes
  · exact connecting.elim

end Stream

namespace Daemon

variable {daemon : Daemon} {client : Stream}

theorem dialTarget_uses (daemon : Daemon) (connects : client.Connects) (target : Target) :
    Uses client.Changes client.MayPut none (daemon.dialTarget target) := by
  have dials (network : Network) (address : String) (budget : Option Duration) :
      Uses client.Changes client.MayPut none (network.dial address budget) :=
    uses_of_puts ((dial_connecting network address budget).imp fun _ connecting =>
      ⟨connecting.isOutward, .asks (.inr ⟨connects, connecting⟩)⟩)
  obtain ⟨organization, address, timeout⟩ := target
  cases organization with
  | none => exact dials .host address _
  | some slug =>
    have looks : Uses client.Changes client.MayPut none (tunnelFor slug) :=
      withRegistry_uses (fun _ => trivial) fun _ => .inr rfl
    refine looks.bind fun found => ?_
    cases found with
    | error failure => exact rfl
    | ok tunnel => exact dials (.tunnel tunnel.session) address _

theorem perform_uses {command : Command} {rest : Incoming}
    (carries : client.incoming.Carries command rest) :
    Uses client.Changes client.MayPut none (daemon.perform rest client.outgoing command) := by
  cases command with
  | ping => exact rfl
  | kill =>
    simp only [perform]
    split
    · exact ⟨.stop ⟨rest, carries⟩, fun _ => rfl⟩
    · exact rfl
  | establish slug =>
    have establishes : client.Establishes := ⟨slug, rest, carries⟩
    have used : Uses client.Changes client.MayPut none (establish daemon.region slug) := by
      apply withRegistry_uses
      · intro registry
        exact (registry.establish_establishing daemon.region slug).imp fun call establishing =>
          ⟨establishing.isOutward, .asks (.inl ⟨establishes, establishing⟩)⟩
      · intro registry
        exact Interaction.returns_of_forall (fun _ => .inl establishes) _
    refine used.bind fun result => ?_
    cases result <;> exact rfl
  | connect target =>
    refine (daemon.dialTarget_uses ⟨target, rest, carries⟩ target).bind fun result => ?_
    cases result <;> exact rfl

theorem serve_uses (daemon : Daemon) (client : Stream) :
    Uses client.Changes client.MayPut none (daemon.serve client) := by
  unfold serve
  split
  · exact rfl
  · exact rfl
  · exact rfl
  · next line terminated rest read =>
    split
    · exact rfl
    · next command parsed => exact perform_uses ⟨line, terminated, read, parsed⟩

theorem not_mayAsk_of_isQuiet (quiet : client.IsQuiet) (call : Call) : ¬ client.MayAsk call := by
  rintro (⟨⟨slug, rest, carries⟩, -⟩ | ⟨⟨target, rest, carries⟩, -⟩)
  · cases quiet _ rest carries
  · cases quiet _ rest carries

-- A quiet connection is through at once, and nobody is asked anything.
theorem serve_of_isQuiet (daemon : Daemon) (quiet : client.IsQuiet) :
    ∃ served, daemon.serve client = .done served := by
  unfold serve
  split
  · exact ⟨_, rfl⟩
  · exact ⟨_, rfl⟩
  · exact ⟨_, rfl⟩
  · next line terminated rest read =>
    split
    · exact ⟨_, rfl⟩
    · next command parsed =>
      cases quiet command rest ⟨line, terminated, read, parsed⟩
      exact ⟨_, rfl⟩

end Daemon

end TunnelBroker
