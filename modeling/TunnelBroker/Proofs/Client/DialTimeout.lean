import TunnelBroker.Proofs.Client.Fidelity
import TunnelBroker.Proofs.Daemon.Connecting

/-!
The timeout of a dial on its way from a client to the daemon. It travels as a number of whole
milliseconds, and zero of them are no timeout. Main statement: the daemon bounds the dial by the
client's timeout, but for a part of a millisecond, exactly if the client can count the timeout
and its own together, and the timeout has at least one millisecond and fewer than 2^64 of them.
-/

set_option autoImplicit false

namespace TunnelBroker

namespace Duration

/-- The two spans differ by less than one millisecond. -/
def IsNear (a b : Duration) : Prop :=
  a.nanoseconds < b.nanoseconds + 1000000 ∧ b.nanoseconds < a.nanoseconds + 1000000

theorem add?_eq_none_iff {a b : Duration} :
    a.add? b = none ↔ 18446744073709551616 * 1000000000 ≤ a.nanoseconds + b.nanoseconds := by
  unfold add? ofNanoseconds?
  split
  · next bounded => simpa using bounded
  · next beyond => simpa using beyond

theorem nanoseconds_of_add? {a b sum : Duration} (added : a.add? b = some sum) :
    sum.nanoseconds = a.nanoseconds + b.nanoseconds := by
  unfold add? ofNanoseconds? at added
  split at added
  · cases added
    rfl
  · cases added

theorem milliseconds_eq_zero_iff {span : Duration} :
    span.milliseconds = 0 ↔ span.nanoseconds < 1000000 := by
  unfold milliseconds
  omega

-- What is cut off is less than a millisecond.
theorem isNear_ofMilliseconds {span : Duration} {whole : UInt64}
    (same : whole.toNat = span.milliseconds) : (ofMilliseconds whole).IsNear span := by
  unfold milliseconds at same
  simp only [IsNear, ofMilliseconds, same]
  omega

end Duration

/-! ### The request -/

namespace Command

theorem words_of_hasColon {address : String} (solid : Text.IsSolid address)
    (port : hasColon address = true) : words address = [address] := by
  rw [words_of_solid solid, if_neg]
  intro empty
  rw [hasColon_iff, String.isEmpty_iff.1 empty] at port
  exact absurd port (by decide)

-- All of the line is read back but the timeout, of which the whole milliseconds are read.
theorem parse_line_within {slug address : String} (checked : Slug.check slug = .ok ())
    (solid : Text.IsSolid address) (port : hasColon address = true) (span : Duration) :
    parse (connect ⟨some slug, address, some span⟩).line =
      (parseTimeout (toString span.milliseconds)).map fun timeout =>
        connect ⟨some slug, address, timeout⟩ := by
  have named : words slug = [slug] := by
    rw [words_of_solid (Slug.solid_of_check checked), Slug.nonempty_of_check checked]
    rfl
  have written : words slug ++ (words address ++ timeoutWords (some span)) =
      [slug, address, toString span.milliseconds] := by
    rw [named, words_of_hasColon solid port]
    rfl
  rw [parse_line_connect, Option.elim_some, written, parseTarget_of_slug (hasColon_of_check checked),
    checked]
  show ((parseAddress [address, toString span.milliseconds]).bind (reach (some slug))).map _ = _
  cases timed : parseTimeout (toString span.milliseconds) with
  | error failure => simp only [parseAddress, timed]; rfl
  | ok timeout =>
    have reached : reach (some slug) (address, timeout) = .ok ⟨some slug, address, timeout⟩ := by
      rw [reach, port]
      rfl
    simp only [parseAddress, timed]
    exact congrArg (Except.map connect) reached

end Command

/-! ### The dial -/

namespace Daemon

def dialThrough (slug address : String) (bound : Option Duration) :
    Task (Except Failure Relay.FarEnd) :=
  (tunnelFor slug).bind fun
    | .error failure => .done (.error failure)
    | .ok tunnel => (Network.tunnel tunnel.session).dial address bound

/--
The daemon finds a `connect` through the tunnel of the organization on a connection, and bounds
its dial by this.
-/
def Dials (daemon : Daemon) (client : Stream) (slug address : String)
    (bound : Option Duration) : Prop :=
  ∃ timeout rest, client.incoming.Carries (.connect ⟨some slug, address, timeout⟩) rest ∧
    timeout.or daemon.dialTimeout = bound ∧
    daemon.serve client =
      (dialThrough slug address bound).bind fun result =>
        .done (conclude rest client.outgoing result)

theorem dials_of_carries (daemon : Daemon) {client : Stream} {slug address : String}
    {timeout : Option Duration} {rest : Incoming}
    (carries : client.incoming.Carries (.connect ⟨some slug, address, timeout⟩) rest) :
    daemon.Dials client slug address (timeout.or daemon.dialTimeout) := by
  refine ⟨timeout, rest, carries, rfl, ?_⟩
  have served : daemon.serve client = daemon.perform rest client.outgoing (.connect _) :=
    serve_of_carries carries
  rw [served]
  show (daemon.dialTarget _).bind _ = _
  have dialed : daemon.dialTarget ⟨some slug, address, timeout⟩ =
      dialThrough slug address (timeout.or daemon.dialTimeout) := by
    refine congrArg (Interaction.bind _) (funext fun found => ?_)
    cases found <;> rfl
  rw [dialed]
  refine congrArg (Interaction.bind _) (funext fun result => ?_)
  cases result <;> rfl

end Daemon

section

variable {slug address : String} {span : Duration} {incoming : Incoming} {input : Bytes}
  (checked : Slug.check slug = .ok ()) (solid : Text.IsSolid address)
  (port : Command.hasColon address = true)
  (fits : (Text.encode (Command.connect ⟨some slug, address, some span⟩).line).length <
    Framing.commandLimit)
  (sent : incoming.bytes =
    Client.commandBytes (.connect ⟨some slug, address, some span⟩) ++ input)

include checked solid port fits sent

-- Of the request the daemon makes what it makes of the number of whole milliseconds.
theorem Framing.readCommand_within :
    ∃ line rest, readCommand incoming = .read line true rest ∧
      Command.parse (Text.decodeLossy line) =
        (Command.parseTimeout (toString span.milliseconds)).map fun timeout =>
          .connect ⟨some slug, address, timeout⟩ := by
  have names : ∀ name, some slug = some name → Text.IsSolid name := by
    rintro name ⟨⟩
    exact Slug.solid_of_check checked
  obtain ⟨rest, read⟩ :=
    readCommand_of_request sent (Command.lineFeed_not_mem_connect solid names) fits
  refine ⟨_, rest, read, ?_⟩
  rw [Text.decodeLossy_encode, Command.parse_line_within checked solid port]

theorem Daemon.dials_iff (daemon : Daemon) (outgoing : Outgoing) (bound : Option Duration) :
    daemon.Dials ⟨incoming, outgoing⟩ slug address bound ↔
      ∃ timeout, Command.parseTimeout (toString span.milliseconds) = .ok timeout ∧
        timeout.or daemon.dialTimeout = bound := by
  obtain ⟨line, rest, read, parsed⟩ := Framing.readCommand_within checked solid port fits sent
  constructor
  · rintro ⟨timeout, others, ⟨found, terminated, again, carried⟩, bounded, -⟩
    cases read.symm.trans again
    obtain ⟨_, timed, same⟩ := map_eq_ok (parsed.symm.trans carried)
    cases same
    exact ⟨timeout, timed, bounded⟩
  · rintro ⟨timeout, timed, rfl⟩
    rw [timed] at parsed
    exact daemon.dials_of_carries ⟨line, true, read, parsed⟩

theorem Daemon.serve_of_badTimeout (daemon : Daemon) (outgoing : Outgoing) {failure : Failure}
    (refused : Command.parseTimeout (toString span.milliseconds) = .error failure) :
    daemon.serve ⟨incoming, outgoing⟩ = .done (reject outgoing failure) := by
  obtain ⟨line, rest, read, parsed⟩ := Framing.readCommand_within checked solid port fits sent
  rw [refused] at parsed
  simp only [serve, read, parsed]
  rfl

end

namespace Command

-- The whole milliseconds are a timeout if there are some, and if they can be counted in 64 bits.
theorem parseTimeout_within (span : Duration) :
    (span.nanoseconds < 1000000 → parseTimeout (toString span.milliseconds) = .ok none) ∧
    (1000000 ≤ span.nanoseconds → span.milliseconds < UInt64.size →
      ∃ bound, parseTimeout (toString span.milliseconds) = .ok (some bound) ∧
        0 < bound.nanoseconds ∧ bound.IsNear span) ∧
    (UInt64.size ≤ span.milliseconds → parseTimeout (toString span.milliseconds) =
      .error (Fault.badTimeout (toString span.milliseconds)).failure) := by
  refine ⟨fun short => ?_, fun long countable => ?_, fun beyond => ?_⟩
  · have none := Duration.milliseconds_eq_zero_iff.2 short
    rw [parseTimeout_toString, dif_pos (none ▸ by decide), if_pos none]
  · have some : span.milliseconds ≠ 0 := fun none =>
      absurd (Duration.milliseconds_eq_zero_iff.1 none) (Nat.not_lt.2 long)
    refine ⟨_, by rw [parseTimeout_toString, dif_pos countable, if_neg some], ?_, ?_⟩
    · exact Nat.mul_pos (Nat.pos_of_ne_zero some) (by decide)
    · exact Duration.isNear_ofMilliseconds rfl
  · rw [parseTimeout_toString, dif_neg (Nat.not_lt.2 beyond)]

end Command

/-! ### The chain of both -/

namespace Dialer

/-- What the client contacts, and for how long, or that it cannot count the time. -/
def Contacts (dialer : Dialer) (address : String) (span : Duration) : Prop :=
  ∀ input, match dialer.limit? span with
    | none => dialer.dialWithin address input span = .done (.error .outOfTime)
    | some limit =>
      limit.nanoseconds = span.nanoseconds + dialer.client.requestTimeout.nanoseconds ∧
      ∃ next, dialer.dialWithin address input span = .ask (.contact dialer.client.socket
        (Client.commandBytes (dialer.command address (some span)) ++ input) (some limit)) next

theorem contacts (dialer : Dialer) (address : String) (span : Duration) :
    dialer.Contacts address span := by
  intro input
  cases added : dialer.limit? span with
  | none => simp only [dialWithin, connect, added]
  | some limit =>
    refine ⟨Duration.nanoseconds_of_add? added, ?_⟩
    simp only [dialWithin, connect, added]
    exact ⟨_, rfl⟩

/-- Any daemon that gets the request bounds its dial by the timeout, to the millisecond. -/
def Delivers (dialer : Dialer) (address : String) (span : Duration) : Prop :=
  ∀ (daemon : Daemon) (stream : Stream) (input : Bytes),
    stream.incoming.bytes = Client.commandBytes (dialer.command address (some span)) ++ input →
    ∃ bound, 0 < bound.nanoseconds ∧ bound.IsNear span ∧
      daemon.Dials stream dialer.organization address (some bound)

section

variable {dialer : Dialer} {address : String} {span : Duration}
  (checked : Slug.check dialer.organization = .ok ()) (solid : Text.IsSolid address)
  (port : Command.hasColon address = true)
  (fits : (Text.encode (dialer.command address (some span)).line).length < Framing.commandLimit)

include checked solid port fits

theorem delivers_iff :
    dialer.Delivers address span ↔
      1000000 ≤ span.nanoseconds ∧ span.milliseconds < UInt64.size := by
  have within := Command.parseTimeout_within span
  constructor
  · intro delivers
    have sent := Incoming.bytes_cons
      (Client.isEmpty_commandBytes (dialer.command address (some span))) [] .closed
    -- A daemon without a bound of its own shows whether the timeout is there.
    obtain ⟨bound, -, -, dials⟩ := delivers ⟨1, "", none⟩ ⟨⟨[_], .closed⟩, .unlimited⟩ [] sent
    obtain ⟨timeout, timed, bounded⟩ :=
      (Daemon.dials_iff checked solid port fits sent _ _ _).1 dials
    rw [Option.or_none] at bounded
    subst bounded
    refine ⟨Nat.not_lt.1 fun short => ?_, Nat.not_le.1 fun beyond => ?_⟩
    · exact nomatch (within.1 short).symm.trans timed
    · exact nomatch (within.2.2 beyond).symm.trans timed
  · rintro ⟨long, countable⟩ daemon stream input sent
    obtain ⟨bound, timed, positive, near⟩ := within.2.1 long countable
    exact ⟨bound, positive, near,
      (Daemon.dials_iff checked solid port fits sent daemon stream.outgoing _).2 ⟨_, timed, rfl⟩⟩

/--
The client can count its time and any daemon bounds the dial by the timeout, to the millisecond,
exactly if the timeout has at least one whole millisecond, fewer of them than 2^64, and fits in
a span together with the client's own. Without a whole millisecond the dial has the daemon's own
bound, if any, and too many of them are rejected.
-/
theorem timeout_reaches_dial_iff :
    (((∃ limit, dialer.limit? span = some limit) ∧ dialer.Delivers address span) ↔
      span.nanoseconds + dialer.client.requestTimeout.nanoseconds <
        18446744073709551616 * 1000000000 ∧
      1000000 ≤ span.nanoseconds ∧ span.milliseconds < UInt64.size) ∧
    dialer.Contacts address span ∧
    ∀ (daemon : Daemon) (stream : Stream) (input : Bytes),
      stream.incoming.bytes = Client.commandBytes (dialer.command address (some span)) ++ input →
      (span.nanoseconds < 1000000 →
        daemon.Dials stream dialer.organization address daemon.dialTimeout) ∧
      (UInt64.size ≤ span.milliseconds → daemon.serve stream = .done (Daemon.reject stream.outgoing
        (Command.Fault.badTimeout (toString span.milliseconds)).failure)) := by
  have within := Command.parseTimeout_within span
  have counted : (∃ limit, dialer.limit? span = some limit) ↔
      span.nanoseconds + dialer.client.requestTimeout.nanoseconds <
        18446744073709551616 * 1000000000 := by
    rw [← Nat.not_le, ← Duration.add?_eq_none_iff, ← Option.ne_none_iff_exists']
    rfl
  refine ⟨and_congr counted (delivers_iff checked solid port fits), dialer.contacts address span,
    fun daemon stream input sent => ⟨fun short => ?_, fun beyond => ?_⟩⟩
  · exact (Daemon.dials_iff checked solid port fits sent daemon stream.outgoing _).2
      ⟨none, within.1 short, Option.none_or⟩
  · exact Daemon.serve_of_badTimeout checked solid port fits sent daemon stream.outgoing
      (within.2.2 beyond)

end

/-- Of half a millisecond nothing is left: the dial is not bounded at all. -/
theorem short_timeout_is_lost :
    let dialer : Dialer := ⟨.ofSocket (.ofText "/run/agent.sock"), "acme"⟩
    ¬ dialer.Delivers "db:80" ⟨500000, by decide⟩ ∧
    (Daemon.mk 1 "iad" none).Dials
      ⟨⟨[Client.commandBytes (dialer.command "db:80" (some ⟨500000, by decide⟩))], .closed⟩,
        .unlimited⟩ "acme" "db:80" none := by
  intro dialer
  have checked : Slug.check dialer.organization = .ok () := by decide +kernel
  have solid : Text.IsSolid "db:80" := by decide
  have fits : (Text.encode (dialer.command "db:80" (some ⟨500000, by decide⟩)).line).length <
      Framing.commandLimit := by decide
  have reaches := timeout_reaches_dial_iff checked solid (by decide) fits
  have counted : ∃ limit, dialer.limit? ⟨500000, by decide⟩ = some limit :=
    Option.ne_none_iff_exists'.1 (mt Duration.add?_eq_none_iff.1 (by decide))
  refine ⟨fun delivers => ?_, ?_⟩
  · exact absurd (reaches.1.1 ⟨counted, delivers⟩).2.1 (by decide)
  · exact (reaches.2.2 ⟨1, "iad", none⟩ ⟨⟨[_], .closed⟩, .unlimited⟩ []
      (Incoming.bytes_cons (Client.isEmpty_commandBytes _) [] .closed)).1 (by decide)

end Dialer

end TunnelBroker
