import TunnelBroker.Proofs.Daemon.Connecting
import TunnelBroker.Proofs.Daemon.OneLine
import TunnelBroker.Proofs.Daemon.Rejection
import TunnelBroker.Proofs.Failure

/-!
Failed look-ups and dials, and what a client makes of the answer. Main statement: the client is
told of a failed connection whatever goes wrong, unless the network's own dial fails, and fails
with something that is no failed connection already.
-/

set_option autoImplicit false

namespace TunnelBroker

/-! ### Failed connections -/

namespace Failure

/-- No connection was made: the host was not found, or not dialed. -/
inductive IsConnection : Failure → Prop where
  | resolve (host reason : String) : IsConnection (.resolve host reason)
  | dial (detail : String) : IsConnection (.dial detail)

/-- The message is one of a failed connection. -/
def NamesConnection (failure : Failure) : Prop :=
  ∃ text, failure.message = "connection failed: " ++ text

theorem IsConnection.named {failure : Failure} (connection : failure.IsConnection) :
    failure.NamesConnection := by
  cases connection with
  | resolve host reason => exact ⟨_, message_resolve host reason⟩
  | dial detail => exact ⟨detail, rfl⟩

theorem isConnection_ofConnectionText (text : List Char) :
    (ofConnectionText text).IsConnection := by
  unfold ofConnectionText
  split <;> constructor

/-- How the messages of all other failures begin, except for those that are bare texts. -/
def otherLeads : List String :=
  ["can't bind agent socket: ", "no such organization: ", "can't establish tunnel for ",
    "no tunnel for ", "directory error: ", "agent error: ", "Configuration error: ",
    "I/O error: ", "Serialization error: ", "Permission denied: ", "Operation timed out: ",
    "Validation error: "]

theorem message_begins (failure : Failure) :
    failure.IsConnection ∨ (∃ detail, failure = .protocol detail) ∨
      ∃ lead ∈ otherLeads, ∃ rest, failure.message = lead ++ rest := by
  have other (lead : String) (isOther : lead ∈ otherLeads) (rest : String)
      (same : failure.message = lead ++ rest) :
      failure.IsConnection ∨ (∃ detail, failure = .protocol detail) ∨
        ∃ lead ∈ otherLeads, ∃ rest, failure.message = lead ++ rest :=
    .inr (.inr ⟨lead, isOther, rest, same⟩)
  cases failure with
  | resolve host reason => exact .inl (.resolve host reason)
  | dial detail => exact .inl (.dial detail)
  | protocol detail => exact .inr (.inl ⟨detail, rfl⟩)
  | bind detail => exact other "can't bind agent socket: " (by decide) detail rfl
  | organizationNotFound name => exact other "no such organization: " (by decide) name rfl
  | tunnelEstablish name reason =>
    exact other "can't establish tunnel for " (by decide) _ (message_tunnelEstablish name reason)
  | noTunnel name => exact other "no tunnel for " (by decide) _ (message_noTunnel name)
  | directory detail => exact other "directory error: " (by decide) detail rfl
  | agent detail => exact other "agent error: " (by decide) detail rfl
  | config detail => exact other "Configuration error: " (by decide) detail rfl
  | io detail => exact other "I/O error: " (by decide) detail rfl
  | serialization detail => exact other "Serialization error: " (by decide) detail rfl
  | permission detail => exact other "Permission denied: " (by decide) detail rfl
  | timeout detail => exact other "Operation timed out: " (by decide) detail rfl
  | validation detail => exact other "Validation error: " (by decide) detail rfl

-- Of all other failures, only a bare text can be a message of a failed connection.
theorem namesConnection_iff (failure : Failure) :
    failure.NamesConnection ↔
      failure.IsConnection ∨ ∃ text, failure = .protocol ("connection failed: " ++ text) := by
  constructor
  · rintro ⟨text, named⟩
    rcases failure.message_begins with connection | ⟨detail, rfl⟩ | ⟨lead, isOther, rest, same⟩
    · exact .inl connection
    · exact .inr ⟨text, congrArg protocol named⟩
    · have apart : ∀ lead ∈ otherLeads, ¬ lead.toList <+: "connection failed: ".toList ∧
          ¬ "connection failed: ".toList <+: lead.toList := by
        decide
      have texts : lead.toList ++ rest.toList = "connection failed: ".toList ++ text.toList := by
        rw [← String.toList_append, ← String.toList_append, ← same, named]
      have begins : lead.toList <+: "connection failed: ".toList ++ text.toList :=
        ⟨rest.toList, texts⟩
      rcases List.prefix_or_prefix_of_prefix begins (List.prefix_append ..) with first | second
      · exact absurd first (apart lead isOther).1
      · exact absurd second (apart lead isOther).2
  · rintro (connection | ⟨text, rfl⟩)
    · exact connection.named
    · exact ⟨text, rfl⟩

end Failure

/-- The reply names a failed connection, and clients that read it take it for one. -/
structure Reply.TellsConnection (reply : Reply) : Prop where
  begins : ∃ text, reply.line = "err connection failed: " ++ text
  read : ∀ answer : Incoming, answer.bytes = Daemon.replyBytes reply →
    (∃ found others failure, Client.readReply answer = some (.ok (found, others)) ∧
      found.toResult = .error failure ∧ failure.IsConnection) ∨
    Framing.commandLimit + 1 < (Daemon.replyBytes reply).length ∧
      Client.readReply answer = some (.error (.agent "reply line too long"))

theorem Reply.err_connection (text : String) :
    (err ("connection failed: " ++ text)).line = "err connection failed: " ++ text :=
  String.append_assoc.symm

-- What ends the message does not matter, since what tells the failures apart begins it.
theorem Reply.toResult_parse_connection (text : String) :
    ∃ found failure, parse (err ("connection failed: " ++ text)).line = .ok found ∧
      found.toResult = .error failure ∧ failure.IsConnection := by
  have lead : Text.dropTailWhile isLineEnd "connection failed: ".toList =
      "connection failed: ".toList := by decide
  have stays : String.ofList (Text.dropTailWhile isLineEnd ("connection failed: " ++ text).toList) =
      "connection failed: " ++ String.ofList (Text.dropTailWhile isLineEnd text.toList) := by
    rw [String.toList_append, Text.dropTailWhile_append lead, String.ofList_append,
      String.ofList_toList]
  refine ⟨_, _, by rw [parse_err, stays], rfl, ?_⟩
  rw [Failure.ofMessage_of_connection]
  exact Failure.isConnection_ofConnectionText _

-- Of a message with line feeds the first line is read, and it still names the connection.
theorem Reply.tellsConnection_of_named {failure : Failure} (named : failure.NamesConnection) :
    (ofFailure failure).TellsConnection := by
  obtain ⟨text, message⟩ := named
  have line : (ofFailure failure).line = "err connection failed: " ++ text := by
    rw [ofFailure, message, err_connection]
  refine ⟨⟨text, line⟩, fun answer bytes => ?_⟩
  obtain ⟨first, isFirst⟩ := Command.exists_isFirstLine (ofFailure failure).line.toList
  obtain ⟨more, sent⟩ := isFirst.encoded []
  have whole : Daemon.replyBytes (ofFailure failure) =
      Text.encodeChars first ++ Framing.lineFeed :: more := by
    rw [← sent, List.append_nil]
    rfl
  have framed := Framing.readReply_of_bytes (mt Text.mem_of_lineFeed_mem_encodeChars isFirst.unended)
    (bytes.trans whole)
  split at framed
  · obtain ⟨others, read, -⟩ := framed
    have led : "err connection failed: ".toList <+: first := by
      refine isFirst.begins (by decide) ?_
      rw [line, String.toList_append]
      exact List.prefix_append ..
    obtain ⟨tail, rfl⟩ := led
    obtain ⟨found, told, parsed, result, connection⟩ :=
      toResult_parse_connection (String.ofList tail)
    have decoded : Text.decodeLossy (Text.encodeChars ("err connection failed: ".toList ++ tail)) =
        (err ("connection failed: " ++ String.ofList tail)).line := by
      rw [Text.decodeLossy_encodeChars, String.ofList_append, String.ofList_toList, err_connection]
    refine .inl ⟨found, others, told, ?_, result, connection⟩
    simp only [Client.readReply, read, decoded, parsed]
    rfl
  · next long =>
    refine .inr ⟨?_, by rw [Client.readReply, framed]⟩
    rw [whole, List.length_append, List.length_cons]
    omega

theorem Reply.tellsConnection_iff (failure : Failure) :
    (ofFailure failure).TellsConnection ↔ failure.NamesConnection := by
  refine ⟨fun tells => ?_, tellsConnection_of_named⟩
  obtain ⟨text, line⟩ := tells.begins
  have line : "err " ++ failure.message = "err " ++ ("connection failed: " ++ text) := by
    rw [← String.append_assoc]
    exact line
  exact ⟨text, (String.append_right_inj _).1 line⟩

namespace Daemon

section

variable (registry : Registry) (sessions : Sessions) (target : Target) (budget : Option Duration)

/-- The host is found, and the dial itself fails, with a failure of the network's own. -/
def DialsInVain (own : Failure) : Prop :=
  ∃ network parts ip, registry.Provides target.organization network ∧
    HostPort.parse target.address = .ok parts ∧ sessions.Locates network parts.host ip ∧
    (sessions.dial network ⟨ip, parts.port⟩).InTime budget (.error own)

end

section

variable {registry : Registry} {sessions : Sessions} {target : Target} {network : Network}
  {parts : HostPort} {failure own : Failure} {calls : List Call}

-- Whatever fails behind the tunnel and the port is a failed connection, but for the dial itself.
theorem Fails.isConnection_or_dial {budget : Option Duration}
    (provides : registry.Provides target.organization network)
    (parsed : HostPort.parse target.address = .ok parts)
    (fails : Fails registry sessions target budget failure calls) :
    failure.IsConnection ∨ DialsInVain registry sessions target budget failure := by
  cases fails with
  | noTunnel asked unknown =>
    rw [asked] at provides
    cases provides with
    | tunnel known => exact nomatch unknown.symm.trans known
  | malformed _ malformed => exact nomatch malformed.symm.trans parsed
  | unresolved => exact .inl (.resolve ..)
  | nowhere => exact .inl (.resolve ..)
  | undialed provides parsed locates refused =>
    exact .inr ⟨_, _, _, provides, parsed, locates, refused⟩
  | expired => exact .inl (.dial _)

-- A connection fails in one way only, so a dial that fails is what is reported.
theorem Fails.eq_of_dial {daemon : Daemon}
    (fails : Fails registry sessions target (target.timeout.or daemon.dialTimeout) failure calls)
    (vain : DialsInVain registry sessions target (target.timeout.or daemon.dialTimeout) own) :
    own = failure := by
  obtain ⟨network, parts, ip, provides, parsed, locates, refused⟩ := vain
  have other := (Fails.undialed provides parsed locates refused).comes []
  rw [fails.comes []] at other
  exact (Except.error.inj (Option.some.inj (congrArg Prod.fst other))).symm

end

/--
Where there is a network for the target and its address has a port, and then a look-up or the
dial fails, the client is told, by one reply and nothing more. The reply is told as a failed
connection exactly if the network's dial has not failed with something else of its own: a failed
look-up always is, also one that finds no address, and so is a dial that takes too long. The
reply is one line exactly if the message is.
-/
theorem connection_failure_is_told_iff (registry : Registry) (sessions : Sessions)
    (daemon : Daemon) {incoming rest : Incoming} (outgoing : Outgoing) {target : Target}
    {network : Network} {parts : HostPort} {failure : Failure} {calls : List Call}
    (carries : incoming.Carries (.connect target) rest)
    (provides : registry.Provides target.organization network)
    (parsed : HostPort.parse target.address = .ok parts)
    (fails : Fails registry sessions target (target.timeout.or daemon.dialTimeout)
      failure calls) :
    let outcome := (daemon.serve ⟨incoming, outgoing⟩).attend sessions.react (registry, [])
    outcome = (some (reject outgoing failure), registry, calls) ∧
    (reject outgoing failure).transfer = none ∧
    (reject outgoing failure).Gives outgoing (.ofFailure failure) ∧
    ((Reply.ofFailure failure).TellsConnection ↔
      ∀ own, DialsInVain registry sessions target (target.timeout.or daemon.dialTimeout) own →
        own.IsConnection ∨ ∃ text, own = .protocol ("connection failed: " ++ text)) ∧
    (IsReplyLine (replyBytes (.ofFailure failure)) ↔ Text.IsOneLine failure.message) := by
  intro outcome
  refine ⟨comes_serve_connect carries outgoing fails.comes [], rfl, gives_of_write rfl, ?_,
    (isReplyLine_iff _).trans (isOneLine_line_ofFailure failure)⟩
  rw [Reply.tellsConnection_iff]
  constructor
  · intro named own vain
    rw [fails.eq_of_dial vain]
    exact failure.namesConnection_iff.1 named
  · intro refusals
    rcases fails.isConnection_or_dial provides parsed with connection | vain
    · exact connection.named
    · exact failure.namesConnection_iff.2 (refusals failure vain)

/-- Dials connect but cannot be set up then, which is an I/O failure. -/
def unready : Sessions where
  lookup _ _ := .now (.ok [])
  dial _ _ := .now (.error (.io "nodelay"))
  others := obliging

/-- The failure of the dial is told as it is, and not as one of the connection. -/
theorem dial_failure_is_bare :
    let client : Incoming := ⟨[Text.encode "connect 10.0.0.7:6\n"], .closed⟩
    let outcome := ((Daemon.mk 1 "iad" none).serve ⟨client, .unlimited⟩).attend unready.react
      (.initial ∅, [])
    outcome.1 = some (reject .unlimited (.io "nodelay")) ∧
    ¬ (Reply.ofFailure (.io "nodelay")).TellsConnection := by
  intro client outcome
  have sent : client.bytes = Text.encode "connect 10.0.0.7:6" ++ Framing.lineFeed :: [] := by
    decide +kernel
  have parsed : Command.parse "connect 10.0.0.7:6" = .ok (.connect ⟨none, "10.0.0.7:6", none⟩) := rfl
  obtain ⟨others, carries⟩ := client.carries_of_text sent (by decide +kernel) (by decide +kernel)
    parsed
  have port : HostPort.parse "10.0.0.7:6" = .ok ⟨"10.0.0.7", 6⟩ := rfl
  have literal : IpAddress.parse? "10.0.0.7" = some (.v4 ⟨10, 0, 0, 7⟩) := rfl
  have told := connection_failure_is_told_iff (.initial ∅) unready ⟨1, "iad", none⟩ .unlimited
    carries .host port (.undialed .host port (.literal literal) .now)
  refine ⟨congrArg Prod.fst told.1, fun tells => ?_⟩
  have vain : DialsInVain (.initial ∅) unready ⟨none, "10.0.0.7:6", none⟩ none (.io "nodelay") :=
    ⟨_, _, _, .host, port, .literal literal, .now⟩
  rcases told.2.2.2.1.1 tells _ vain with connection | ⟨text, same⟩
  · cases connection
  · cases same

end Daemon

end TunnelBroker
