import TunnelBroker.Proofs.Daemon.Sessions
import TunnelBroker.Proofs.Daemon.Transparency
import TunnelBroker.Proofs.Registry.OneTunnel

/-!
Which connections are made. Main statement: a `connect` is answered `ok` and relayed exactly if
there is a network for its target, the address names a host and a port, the host is found, and
the dial succeeds in time; of the stages that fail the first one is reported, and none behind
it is tried.
-/

set_option autoImplicit false

namespace TunnelBroker

/-- The network of a target: the host's own, or the one behind the organization's tunnel. -/
inductive Registry.Provides (registry : Registry) : Option String → Network → Prop where
  | host : registry.Provides none .host
  | tunnel {slug : String} {tunnel : Tunnel} (known : registry.tunnels.get? slug = some tunnel) :
    registry.Provides (some slug) (.tunnel tunnel.session)

namespace Daemon

/-- A host is at this address: a literal is its own, and of a name's addresses the first counts. -/
inductive Sessions.Locates (sessions : Sessions) (network : Network) (host : String) :
    IpAddress → Prop where
  | literal {ip : IpAddress} (written : IpAddress.parse? host = some ip) :
    sessions.Locates network host ip
  | named {ip : IpAddress} {others : List IpAddress} (name : IpAddress.parse? host = none)
    (listed : (sessions.lookup network host).answer? = some (.ok (ip :: others))) :
    sessions.Locates network host ip

/-- What is looked up for a host: a name, but no literal address. -/
def lookups (network : Network) (host : String) : List Call :=
  if (IpAddress.parse? host).isSome then [] else [.lookup network host]

section

variable (registry : Registry) (sessions : Sessions) (target : Target) (budget : Option Duration)

/-- All stages of a connection succeed, with these calls, and the last leads to a far end. -/
inductive Reaches : Relay.FarEnd → List Call → Prop where
  | reached {network : Network} {parts : HostPort} {ip : IpAddress} {farEnd : Relay.FarEnd}
    (provides : registry.Provides target.organization network)
    (parsed : HostPort.parse target.address = .ok parts)
    (locates : sessions.Locates network parts.host ip)
    (dialed : (sessions.dial network ⟨ip, parts.port⟩).InTime budget (.ok farEnd)) :
    Reaches farEnd (lookups network parts.host ++ [.dial network ⟨ip, parts.port⟩ budget])

/-- The first stage of a connection that fails: its failure, and the calls up to it. -/
inductive Fails : Failure → List Call → Prop where
  | noTunnel {slug : String} (asked : target.organization = some slug)
    (unknown : registry.tunnels.get? slug = none) : Fails (.noTunnel slug) []
  | malformed {network : Network} {failure : Failure}
    (provides : registry.Provides target.organization network)
    (malformed : HostPort.parse target.address = .error failure) : Fails failure []
  | unresolved {network : Network} {parts : HostPort} {failure : Failure}
    (provides : registry.Provides target.organization network)
    (parsed : HostPort.parse target.address = .ok parts)
    (name : IpAddress.parse? parts.host = none)
    (refused : (sessions.lookup network parts.host).answer? = some (.error failure)) :
    Fails (.resolve parts.host failure.message) [.lookup network parts.host]
  | nowhere {network : Network} {parts : HostPort}
    (provides : registry.Provides target.organization network)
    (parsed : HostPort.parse target.address = .ok parts)
    (name : IpAddress.parse? parts.host = none)
    (empty : (sessions.lookup network parts.host).answer? = some (.ok [])) :
    Fails (.resolve parts.host "no addresses found") [.lookup network parts.host]
  | undialed {network : Network} {parts : HostPort} {ip : IpAddress} {failure : Failure}
    (provides : registry.Provides target.organization network)
    (parsed : HostPort.parse target.address = .ok parts)
    (locates : sessions.Locates network parts.host ip)
    (refused : (sessions.dial network ⟨ip, parts.port⟩).InTime budget (.error failure)) :
    Fails failure (lookups network parts.host ++ [.dial network ⟨ip, parts.port⟩ budget])
  | expired {network : Network} {parts : HostPort} {ip : IpAddress} {limit : Duration}
    (provides : registry.Provides target.organization network)
    (parsed : HostPort.parse target.address = .ok parts)
    (locates : sessions.Locates network parts.host ip) (bounded : budget = some limit)
    (late : (sessions.dial network ⟨ip, parts.port⟩).Late limit) :
    Fails (Network.timeoutFailure ⟨ip, parts.port⟩)
      (lookups network parts.host ++ [.dial network ⟨ip, parts.port⟩ budget])

/-- A stage of a connection never ends: the calls up to the one that is not answered. -/
inductive Waits : List Call → Prop where
  | unlisted {network : Network} {parts : HostPort}
    (provides : registry.Provides target.organization network)
    (parsed : HostPort.parse target.address = .ok parts)
    (name : IpAddress.parse? parts.host = none)
    (silent : (sessions.lookup network parts.host).answer? = none) :
    Waits [.lookup network parts.host]
  | undialed {network : Network} {parts : HostPort} {ip : IpAddress}
    (provides : registry.Provides target.organization network)
    (parsed : HostPort.parse target.address = .ok parts)
    (locates : sessions.Locates network parts.host ip) (unbounded : budget = none)
    (silent : sessions.dial network ⟨ip, parts.port⟩ = .never) :
    Waits (lookups network parts.host ++ [.dial network ⟨ip, parts.port⟩ budget])

/-- Some stage fails first, or one never ends, or all of them succeed. -/
def Settles : Prop :=
  (∃ farEnd calls, Reaches registry sessions target budget farEnd calls) ∨
    (∃ failure calls, Fails registry sessions target budget failure calls) ∨
    ∃ calls, Waits registry sessions target budget calls

end

/-! ### One stage after the other -/

section

variable {registry : Registry} {sessions : Sessions} {target : Target} {budget : Option Duration}

theorem provides_or_unknown (registry : Registry) (organization : Option String) :
    (∃ network, registry.Provides organization network) ∨
      ∃ slug, organization = some slug ∧ registry.tunnels.get? slug = none := by
  cases organization with
  | none => exact .inl ⟨.host, .host⟩
  | some slug =>
    cases known : registry.tunnels.get? slug with
    | none => exact .inr ⟨slug, rfl, known⟩
    | some tunnel => exact .inl ⟨_, .tunnel known⟩

theorem settles_of_locates {network : Network} {parts : HostPort} {ip : IpAddress}
    (provides : registry.Provides target.organization network)
    (parsed : HostPort.parse target.address = .ok parts)
    (locates : sessions.Locates network parts.host ip) :
    Settles registry sessions target budget := by
  rcases Simulation.Reaction.inTime_or_late budget (sessions.dial network ⟨ip, parts.port⟩) with
    ⟨result, inTime⟩ | ⟨limit, bounded, late⟩ | ⟨unbounded, silent⟩
  · cases result with
    | ok farEnd => exact .inl ⟨_, _, .reached provides parsed locates inTime⟩
    | error failure => exact .inr (.inl ⟨_, _, .undialed provides parsed locates inTime⟩)
  · exact .inr (.inl ⟨_, _, .expired provides parsed locates bounded late⟩)
  · exact .inr (.inr ⟨_, .undialed provides parsed locates unbounded silent⟩)

theorem settles (registry : Registry) (sessions : Sessions) (target : Target)
    (budget : Option Duration) : Settles registry sessions target budget := by
  rcases provides_or_unknown registry target.organization with
    ⟨network, provides⟩ | ⟨slug, asked, unknown⟩
  case inr => exact .inr (.inl ⟨_, _, .noTunnel asked unknown⟩)
  cases parsed : HostPort.parse target.address with
  | error failure => exact .inr (.inl ⟨_, _, .malformed provides parsed⟩)
  | ok parts =>
    cases name : IpAddress.parse? parts.host with
    | some ip => exact settles_of_locates provides parsed (.literal name)
    | none =>
      cases listed : (sessions.lookup network parts.host).answer? with
      | none => exact .inr (.inr ⟨_, .unlisted provides parsed name listed⟩)
      | some answer =>
        cases answer with
        | error failure => exact .inr (.inl ⟨_, _, .unresolved provides parsed name listed⟩)
        | ok addresses =>
          cases addresses with
          | nil => exact .inr (.inl ⟨_, _, .nowhere provides parsed name listed⟩)
          | cons ip others => exact settles_of_locates provides parsed (.named name listed)

end

/-! ### Resolving and dialing -/

section

variable {registry : Registry} {sessions : Sessions} {network : Network} {address : String}
  {parts : HostPort}

theorem comes_resolve_malformed {failure : Failure}
    (malformed : HostPort.parse address = .error failure) :
    Comes sessions registry (network.resolve address) (some (.error failure)) [] := by
  rw [Network.resolve, malformed]
  exact comes_done _

theorem comes_resolve_name (parsed : HostPort.parse address = .ok parts)
    (name : IpAddress.parse? parts.host = none) {listed : Except Failure (List IpAddress)}
    (answered : (sessions.lookup network parts.host).answer? = some listed) :
    Comes sessions registry (network.resolve address)
      (some ((Network.chooseAddress parts.host listed).map fun ip => ⟨ip, parts.port⟩))
      [.lookup network parts.host] := by
  simp only [Network.resolve, parsed, name]
  exact comes_ask trivial answered (comes_done _)

theorem comes_resolve_unanswered (parsed : HostPort.parse address = .ok parts)
    (name : IpAddress.parse? parts.host = none)
    (silent : (sessions.lookup network parts.host).answer? = none) :
    Comes sessions registry (network.resolve address) none [.lookup network parts.host] := by
  simp only [Network.resolve, parsed, name]
  exact comes_ask_unanswered _ trivial silent

theorem comes_resolve (parsed : HostPort.parse address = .ok parts) {ip : IpAddress}
    (locates : sessions.Locates network parts.host ip) :
    Comes sessions registry (network.resolve address) (some (.ok ⟨ip, parts.port⟩))
      (lookups network parts.host) := by
  cases locates with
  | literal written =>
    simp only [Network.resolve, parsed, written, lookups]
    exact comes_done _
  | named name listed =>
    rw [lookups, name]
    exact comes_resolve_name parsed name listed

def report (address : SocketAddress) : DialAnswer → Except Failure Relay.FarEnd
  | .ended result => result
  | .expired => .error (Network.timeoutFailure address)

theorem dial_eq (network : Network) (address : String) (budget : Option Duration) :
    network.dial address budget = (network.resolve address).bind fun
      | .error failure => .done (.error failure)
      | .ok target => .ask (.dial network target budget) fun answer =>
        .done (report target answer) := by
  refine congrArg (Interaction.bind _) (funext fun resolved => ?_)
  cases resolved with
  | error failure => rfl
  | ok target =>
    refine congrArg (Interaction.ask _) (funext fun answer => ?_)
    cases answer <;> rfl

theorem comes_dial_unresolved {failure : Failure} {calls : List Call}
    (unresolved : Comes sessions registry (network.resolve address) (some (.error failure)) calls)
    (budget : Option Duration) :
    Comes sessions registry (network.dial address budget) (some (.error failure)) calls := by
  rw [dial_eq, ← List.append_nil calls]
  exact unresolved.bind (comes_done _)

theorem comes_dial_unlisted {calls : List Call}
    (unlisted : Comes sessions registry (network.resolve address) none calls)
    (budget : Option Duration) :
    Comes sessions registry (network.dial address budget) none calls := by
  rw [dial_eq]
  exact unlisted.bind_unanswered _

variable {ip : IpAddress} {budget : Option Duration}

-- The dial is the last call, and the only one that the timeout is given to.
theorem comes_dial (parsed : HostPort.parse address = .ok parts)
    (locates : sessions.Locates network parts.host ip) {result : DialAnswer}
    (answered : sessions.answer? (.dial network ⟨ip, parts.port⟩ budget) = some result) :
    Comes sessions registry (network.dial address budget)
      (some (report ⟨ip, parts.port⟩ result))
      (lookups network parts.host ++ [.dial network ⟨ip, parts.port⟩ budget]) := by
  rw [dial_eq]
  exact (comes_resolve parsed locates).bind (comes_ask trivial answered (comes_done _))

theorem comes_dial_unanswered (parsed : HostPort.parse address = .ok parts)
    (locates : sessions.Locates network parts.host ip)
    (unanswered : sessions.answer? (.dial network ⟨ip, parts.port⟩ budget) = none) :
    Comes sessions registry (network.dial address budget) none
      (lookups network parts.host ++ [.dial network ⟨ip, parts.port⟩ budget]) := by
  rw [dial_eq]
  exact (comes_resolve parsed locates).bind (comes_ask_unanswered _ trivial unanswered)

end

/-! ### The whole connection -/

def conclude (rest : Incoming) (outgoing : Outgoing) : Except Failure Relay.FarEnd → Served
  | .ok farEnd => relay rest outgoing farEnd
  | .error failure => reject outgoing failure

section

variable {registry : Registry} {sessions : Sessions} {daemon : Daemon} {target : Target}

theorem comes_dialTarget {network : Network} {result : Option (Except Failure Relay.FarEnd)}
    {calls : List Call} (provides : registry.Provides target.organization network)
    (dials : Comes sessions registry
      (network.dial target.address (target.timeout.or daemon.dialTimeout)) result calls) :
    Comes sessions registry (daemon.dialTarget target) result calls := by
  obtain ⟨organization, address, timeout⟩ := target
  cases provides with
  | host => exact dials
  | @tunnel slug tunnel known =>
    have found : registry.tunnelFor slug = .ok tunnel := by
      rw [Registry.tunnelFor, known]
    exact (comes_tunnelFor found).bind dials

theorem comes_dialTarget_unknown {slug : String} (asked : target.organization = some slug)
    (unknown : registry.tunnels.get? slug = none) :
    Comes sessions registry (daemon.dialTarget target) (some (.error (.noTunnel slug))) [] := by
  obtain ⟨organization, address, timeout⟩ := target
  cases asked
  have missing : registry.tunnelFor slug = .error (.noTunnel slug) := by
    rw [Registry.tunnelFor, unknown]
  exact (comes_tunnelFor missing).bind (comes_done _)

variable {calls : List Call}

theorem Reaches.comes {farEnd : Relay.FarEnd}
    (reaches : Reaches registry sessions target (target.timeout.or daemon.dialTimeout)
      farEnd calls) :
    Comes sessions registry (daemon.dialTarget target) (some (.ok farEnd)) calls := by
  cases reaches with
  | reached provides parsed locates dialed =>
    exact comes_dialTarget provides (comes_dial parsed locates (Sessions.answer?_dial dialed))

theorem Fails.comes {failure : Failure}
    (fails : Fails registry sessions target (target.timeout.or daemon.dialTimeout)
      failure calls) :
    Comes sessions registry (daemon.dialTarget target) (some (.error failure)) calls := by
  cases fails with
  | noTunnel asked unknown => exact comes_dialTarget_unknown asked unknown
  | malformed provides malformed =>
    exact comes_dialTarget provides (comes_dial_unresolved (comes_resolve_malformed malformed) _)
  | unresolved provides parsed name refused =>
    exact comes_dialTarget provides
      (comes_dial_unresolved (comes_resolve_name parsed name refused) _)
  | nowhere provides parsed name empty =>
    exact comes_dialTarget provides (comes_dial_unresolved (comes_resolve_name parsed name empty) _)
  | undialed provides parsed locates refused =>
    exact comes_dialTarget provides (comes_dial parsed locates (Sessions.answer?_dial refused))
  | expired provides parsed locates bounded late =>
    exact comes_dialTarget provides
      (comes_dial parsed locates (Sessions.answer?_dial_late bounded late))

theorem Waits.comes
    (waits : Waits registry sessions target (target.timeout.or daemon.dialTimeout) calls) :
    Comes sessions registry (daemon.dialTarget target) none calls := by
  cases waits with
  | unlisted provides parsed name silent =>
    exact comes_dialTarget provides
      (comes_dial_unlisted (comes_resolve_unanswered parsed name silent) _)
  | undialed provides parsed locates unbounded silent =>
    exact comes_dialTarget provides
      (comes_dial_unanswered parsed locates (Sessions.answer?_dial_never unbounded silent))

section

variable (rest : Incoming) (outgoing : Outgoing)

theorem comes_perform_connect {result : Except Failure Relay.FarEnd}
    (dials : Comes sessions registry (daemon.dialTarget target) (some result) calls) :
    Comes sessions registry (daemon.perform rest outgoing (.connect target))
      (some (conclude rest outgoing result)) calls := by
  rw [← List.append_nil calls]
  refine dials.bind ?_
  cases result <;> exact comes_done _

theorem comes_perform_connect_unanswered
    (dials : Comes sessions registry (daemon.dialTarget target) none calls) :
    Comes sessions registry (daemon.perform rest outgoing (.connect target)) none calls :=
  dials.bind_unanswered _

end

variable {incoming rest : Incoming} (carries : incoming.Carries (.connect target) rest)
  (outgoing : Outgoing)

include carries

theorem comes_serve_connect {result : Except Failure Relay.FarEnd}
    (dials : Comes sessions registry (daemon.dialTarget target) (some result) calls) :
    Comes sessions registry (daemon.serve ⟨incoming, outgoing⟩)
      (some (conclude rest outgoing result)) calls := by
  rw [serve_of_carries carries]
  exact comes_perform_connect rest outgoing dials

theorem comes_serve_connect_unanswered
    (dials : Comes sessions registry (daemon.dialTarget target) none calls) :
    Comes sessions registry (daemon.serve ⟨incoming, outgoing⟩) none calls := by
  rw [serve_of_carries carries]
  exact comes_perform_connect_unanswered rest outgoing dials

end

theorem isSome_transfer_relay (rest : Incoming) (outgoing : Outgoing) (farEnd : Relay.FarEnd) :
    (relay rest outgoing farEnd).transfer.isSome = (outgoing.write (replyBytes .ok)).2.1 := by
  rcases written : outgoing.write (replyBytes .ok) with ⟨taken, whole, next⟩
  simp only [relay, written]
  cases whole <;> rfl

-- The client is told `ok` and hears more exactly if it takes the whole reply.
theorem relay_replies_iff (rest : Incoming) (outgoing : Outgoing) (farEnd : Relay.FarEnd) :
    ((relay rest outgoing farEnd).reply = replyBytes .ok ∧
      (relay rest outgoing farEnd).transfer.isSome) ↔
      outgoing.Takes (replyBytes .ok).length := by
  rw [isSome_transfer_relay]
  constructor
  · rintro ⟨-, whole⟩
    exact Outgoing.takes_of_write (by simp [replyBytes]) whole
  · intro takes
    have takes : outgoing.Takes ((replyBytes .ok).length + 0) := takes
    obtain ⟨next, written, -⟩ := takes.write
    simp only [relay, written, if_true, and_self]

/--
A `connect` is answered `ok` and relayed exactly if (a) its target is in the host's network or in
that of an organization with a tunnel, (b) the address names a host and a port, (c) the host is a
literal address or a name that is looked up there, and (d) the first address is dialed in time;
and if the client takes the answer. The network of an organization is the only session that was
ever opened for it. If a stage fails, the first that does is reported, and the calls put to the
network are those up to this stage and no others. Nothing is answered only while a lookup never
ends, or a dial without a bound.
-/
theorem connects_exactly {ι : Type} [DecidableEq ι] (region : String) (requests : ι → Request)
    (peers : Peers) (answers : ι → Nat → Answers) (schedule : List ι) (daemon : Daemon)
    (sessions : Sessions) {incoming rest : Incoming} (outgoing : Outgoing) {target : Target}
    (carries : incoming.Carries (.connect target) rest) :
    let floor := ((Contention.initial region requests peers).run answers schedule).floor
    let registry := floor.registry
    let budget := target.timeout.or daemon.dialTimeout
    let outcome := (daemon.serve ⟨incoming, outgoing⟩).attend sessions.react (registry, [])
    ((∃ served, outcome.1 = some served ∧ served.reply = replyBytes .ok ∧
        served.transfer.isSome) ↔
      outgoing.Takes (replyBytes .ok).length ∧
      ∃ network parts ip farEnd,
        registry.Provides target.organization network ∧
        HostPort.parse target.address = .ok parts ∧
        sessions.Locates network parts.host ip ∧
        (sessions.dial network ⟨ip, parts.port⟩).InTime budget (.ok farEnd)) ∧
    (∀ farEnd calls, Reaches registry sessions target budget farEnd calls →
      outcome = (some (relay rest outgoing farEnd), registry, calls)) ∧
    (∀ failure calls, Fails registry sessions target budget failure calls →
      outcome = (some (reject outgoing failure), registry, calls)) ∧
    (∀ calls, Waits registry sessions target budget calls → outcome = (none, registry, calls)) ∧
    Settles registry sessions target budget ∧
    ∀ slug tunnel, registry.tunnels.get? slug = some tunnel →
      floor.opened requests slug = [tunnel.session] := by
  intro floor registry budget outcome
  have reached (farEnd : Relay.FarEnd) (calls : List Call)
      (reaches : Reaches registry sessions target budget farEnd calls) :
      outcome = (some (relay rest outgoing farEnd), registry, calls) :=
    comes_serve_connect carries outgoing reaches.comes []
  have failed (failure : Failure) (calls : List Call)
      (fails : Fails registry sessions target budget failure calls) :
      outcome = (some (reject outgoing failure), registry, calls) :=
    comes_serve_connect carries outgoing fails.comes []
  have waited (calls : List Call) (waits : Waits registry sessions target budget calls) :
      outcome = (none, registry, calls) :=
    comes_serve_connect_unanswered carries outgoing waits.comes []
  have total := settles registry sessions target budget
  have ordered : Contention.Ordered region requests answers ⟨.initial peers, []⟩
      ((Contention.initial region requests peers).run answers schedule) :=
    (Contention.Ordered.initial region requests answers peers).run schedule
  refine ⟨?_, reached, failed, waited, total, fun slug tunnel known =>
    ordered.opened_eq (Floor.Faithful.initial requests peers) known⟩
  constructor
  · rintro ⟨served, answered, replied, relayed⟩
    rcases total with ⟨farEnd, calls, reaches⟩ | ⟨failure, calls, fails⟩ | ⟨calls, waits⟩
    · rw [reached farEnd calls reaches] at answered
      cases answered
      refine ⟨(relay_replies_iff ..).1 ⟨replied, relayed⟩, ?_⟩
      cases reaches with
      | reached provides parsed locates dialed =>
        exact ⟨_, _, _, _, provides, parsed, locates, dialed⟩
    · rw [failed failure calls fails] at answered
      cases answered
      cases relayed
    · rw [waited calls waits] at answered
      cases answered
  · rintro ⟨takes, network, parts, ip, farEnd, provides, parsed, locates, dialed⟩
    rw [reached farEnd _ (.reached provides parsed locates dialed)]
    exact ⟨_, rfl, (relay_replies_iff ..).2 takes⟩

/-- Names are found at one address after a while, and dials reach the echo after another. -/
def answering : Sessions where
  lookup _ _ := .later 700 (.ok [.v4 ⟨10, 0, 0, 7⟩])
  dial _ _ := .later 50 (.ok echo)
  others := obliging

def knock : Incoming := ⟨[Text.encode "connect acme db:7 050\n"], .closed⟩

theorem knock_is_answered :
    let floor := ((Contention.initial "iad" (fun _ : Unit => .establish "acme") ∅).run
      (fun _ _ => obliging) (List.replicate 8 ())).floor
    let outcome := ((Daemon.mk 1 "iad" none).serve ⟨knock, .unlimited⟩).attend answering.react
      (floor.registry, [])
    ∃ served, outcome.1 = some served ∧ served.reply = replyBytes .ok ∧
      served.transfer.isSome := by
  have sent : knock.bytes = Text.encode "connect acme db:7 050" ++ Framing.lineFeed :: [] := by
    decide +kernel
  have parsed : Command.parse (Text.decodeLossy (Text.encode "connect acme db:7 050")) =
      .ok (.connect ⟨some "acme", "db:7", some (.ofMilliseconds 50)⟩) := by
    rw [Text.encode, Text.decodeLossy_encodeChars]
    rfl
  obtain ⟨others, carries, -⟩ := knock.carries_of_line sent (by decide +kernel)
    (by decide +kernel) parsed
  have exactly := connects_exactly "iad" (fun _ : Unit => .establish "acme") ∅
    (fun _ _ => obliging) (List.replicate 8 ()) ⟨1, "iad", none⟩ answering .unlimited carries
  apply exactly.1.2
  refine ⟨⟨by decide, by decide⟩, .tunnel 0, ⟨"db", 7⟩, .v4 ⟨10, 0, 0, 7⟩, echo, ?_, ?_, ?_, ?_⟩
  · exact .tunnel (show _ = some (⟨⟨"1", "acme", "Acme"⟩, .v4 ⟨10, 0, 0, 2⟩, 0⟩ : Tunnel) from rfl)
  · rfl
  · exact .named rfl rfl
  · refine .later fun limit same => ?_
    cases same
    decide

end Daemon

end TunnelBroker
