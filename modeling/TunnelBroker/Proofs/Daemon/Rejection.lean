import TunnelBroker.Proofs.Client.Fidelity
import TunnelBroker.Proofs.Client.Reading
import TunnelBroker.Proofs.Command.Refusal
import TunnelBroker.Proofs.Relay

/-!
Rejected command lines, and what a client makes of the answer. Main statement: the client reads
the whole message of the failure exactly if the reply's line has at most 4096 bytes. Lines that
are rejected have up to 4095 bytes themselves, but the reply may have more than that, since it
quotes them.
-/

set_option autoImplicit false

namespace TunnelBroker

theorem Text.IsUnbroken.isPlain {message : String} (unbroken : IsUnbroken message) :
    (Reply.err message).IsPlain := by
  refine ⟨fun found => ?_, fun ends => ?_⟩
  · exact absurd (unbroken _ found) (by decide)
  · exact absurd (unbroken _ (List.mem_of_getLast? ends)) (by decide)

namespace Daemon

theorem reject_of_takes {outgoing : Outgoing} {failure : Failure}
    (takes : outgoing.Takes (replyBytes (.ofFailure failure)).length) :
    reject outgoing failure = ⟨replyBytes (.ofFailure failure), none, some (.ok ())⟩ := by
  obtain ⟨next, written, -⟩ :=
    Outgoing.Takes.write (show outgoing.Takes ((replyBytes (.ofFailure failure)).length + 0) from takes)
  rw [reject, finish, written]
  rfl

/--
A line that carries no command is answered with the whole message of its failure, and with nothing
more. The client gets this very failure if the line of the reply is not beyond the limit that
command lines have; otherwise it gets a failure of its own, and no part of the message. Rejected
lines of at most 4077 bytes, replacement characters counted, are always below the limit.
-/
theorem rejection_is_read_up_to_limit (daemon : Daemon) (client : Stream) {line : Bytes}
    {terminated : Bool} {rest : Incoming} {failure : Failure}
    (read : Framing.readCommand client.incoming = .read line terminated rest)
    (rejected : Command.parse (Text.decodeLossy line) = .error failure)
    (takes : client.outgoing.Takes (replyBytes (.ofFailure failure)).length) :
    let size := (Text.encode (Reply.ofFailure failure).line).length
    (∃ served, daemon.serve client = .done served ∧ served.transfer = none ∧
      served.ended = some (.ok ()) ∧ served.sent = replyBytes (.ofFailure failure) ∧
      ∀ answer : Incoming, answer.bytes = served.sent →
        (size ≤ Framing.commandLimit →
          ∃ others, Client.readReply answer = some (.ok (.ofFailure failure, others)) ∧
            others.bytes = [] ∧ others.finish = answer.finish) ∧
        (Framing.commandLimit < size →
          Client.readReply answer = some (.error (.agent "reply line too long")))) ∧
    ((Text.encode (Text.decodeLossy line)).length + 19 ≤ Framing.commandLimit →
      size ≤ Framing.commandLimit) := by
  constructor
  · refine ⟨⟨replyBytes (.ofFailure failure), none, some (.ok ())⟩, ?_, rfl, rfl, ?_, ?_⟩
    · rw [serve, read]
      simp only [rejected]
      rw [reject_of_takes takes]
    · exact List.append_nil _
    · intro answer bytes
      rw [Served.sent, Option.elim_none] at bytes
      have plain : (Reply.ofFailure failure).IsPlain := (Command.unbroken_of_parse rejected).isPlain
      have answered := Client.readReply_of_replyBytes plain bytes
      constructor
      · intro fits
        rwa [if_pos fits] at answered
      · intro long
        rwa [if_neg (Nat.not_le.2 long)] at answered
  · intro short
    have message := Command.length_le_of_parse rejected
    have whole : (Text.encode (Reply.ofFailure failure).line).length =
        4 + (Text.encode failure.message).length :=
      Text.length_encode_of_lead _ (by decide) failure.message
    rw [whole]
    simp only [Framing.commandLimit] at short ⊢
    omega

/-! The two sides of the limit, for a dial to an address without a port. -/

def portless (size : Nat) : Target :=
  ⟨some "acme", String.ofList (List.replicate size 'a'), none⟩

theorem length_encode_portless (size : Nat) :
    (Text.encode (portless size).address).length = size := by
  rw [Text.encode, portless, String.toList_ofList]
  induction size with
  | zero => rfl
  | succ size ih =>
    rw [List.replicate_succ, Text.encodeChars_cons, List.length_append, ih]
    exact Nat.add_comm 1 size

theorem solid_portless (size : Nat) : Text.IsSolid (portless size).address := by
  intro c found
  rw [portless, String.toList_ofList] at found
  cases List.eq_of_mem_replicate found
  decide

theorem parse_portless {size : Nat} (nonempty : 0 < size) :
    Command.parse (Command.connect (portless size)).line =
      .error (Command.Fault.missingPort (portless size).address).failure := by
  have word : Command.words (portless size).address = [(portless size).address] := by
    rw [Command.words_of_solid (solid_portless size), if_neg]
    intro nothing
    have none := length_encode_portless size
    rw [String.isEmpty_iff.1 nothing] at none
    exact absurd none.symm (Nat.ne_of_gt nonempty)
  have noPort : Command.hasColon (portless size).address = false := by
    rw [Bool.eq_false_iff, ne_eq, Command.hasColon_iff, portless, String.toList_ofList]
    intro found
    exact absurd (List.eq_of_mem_replicate found) (by decide)
  have named : Command.words "acme" = ["acme"] := by decide
  calc Command.parse (Command.connect (portless size)).line
    _ = (Command.parseTarget ["acme", (portless size).address]).map Command.connect := by
      rw [Command.parse_line_connect, word]
      show (Command.parseTarget (Command.words "acme" ++ _)).map _ = _
      rw [named]
      rfl
    _ = ((Command.reach (some "acme") ((portless size).address, none)).map Command.connect) := by
      rw [Command.parseTarget_of_slug (by decide)]
      rfl
    _ = .error (Command.Fault.missingPort (portless size).address).failure := by
      rw [Command.reach, noPort]
      rfl

def portlessFailure (size : Nat) : Failure :=
  (Command.Fault.missingPort (portless size).address).failure

theorem length_reply_portless (size : Nat) :
    (Text.encode (Reply.ofFailure (portlessFailure size)).line).length = 28 + size := by
  calc (Text.encode ("err " ++ ("missing port in address " ++ (portless size).address))).length
    _ = 4 + (24 + (Text.encode (portless size).address).length) := by
      rw [Text.length_encode_of_lead 4 (by decide), Text.length_encode_of_lead 24 (by decide)]
    _ = 28 + size := by
      rw [length_encode_portless]
      omega

def portlessClient (size : Nat) : Stream where
  incoming := ⟨[Client.commandBytes (.connect (portless size))], .closed⟩
  outgoing := .unlimited

theorem readCommand_portless (size : Nat) (fits : 13 + size < Framing.commandLimit) :
    ∃ rest, Framing.readCommand (portlessClient size).incoming =
      .read (Text.encode (Command.connect (portless size)).line) true rest := by
  have plain : (Command.connect (portless size)).IsPlain := by
    refine ⟨?_, solid_portless size, nofun⟩
    rintro slug ⟨⟩
    decide
  have length : (Text.encode (Command.connect (portless size)).line).length = 13 + size := by
    calc (Text.encode ("connect" ++ (" " ++ "acme") ++ " " ++ (portless size).address ++ "")).length
      _ = 13 + (Text.encode (portless size).address).length + 0 := by
        rw [Text.length_encode_of_tail 0 (by decide), Text.length_encode_of_lead 13 (by decide)]
      _ = 13 + size := by rw [length_encode_portless, Nat.add_zero]
  have bytes : (portlessClient size).incoming.bytes =
      Text.encode (Command.connect (portless size)).line ++ Framing.lineFeed :: [] := by
    simp [portlessClient, Incoming.bytes, Client.commandBytes]
  have framed := Framing.readCommand_of_bytes
    (mt Text.mem_of_lineFeed_mem_encodeChars plain.lineFeed_not_mem) bytes
  rw [if_pos (length ▸ fits)] at framed
  obtain ⟨rest, read, -⟩ := framed
  exact ⟨rest, read⟩

theorem longer_rejection_is_lost :
    (∃ served, serve ⟨1, "iad", none⟩ (portlessClient 4068) = .done served ∧
      ∀ answer : Incoming, answer.bytes = served.sent → ∃ others,
        Client.readReply answer = some (.ok (.ofFailure (portlessFailure 4068), others))) ∧
    ∃ served, serve ⟨1, "iad", none⟩ (portlessClient 4069) = .done served ∧
      served.sent = replyBytes (.ofFailure (portlessFailure 4069)) ∧
      ∀ answer : Incoming, answer.bytes = served.sent →
        Client.readReply answer = some (.error (.agent "reply line too long")) := by
  have takes (bytes : Bytes) : Outgoing.unlimited.Takes bytes.length := ⟨nofun, nofun⟩
  have rejected {size : Nat} (nonempty : 0 < size) : Command.parse (Text.decodeLossy
      (Text.encode (Command.connect (portless size)).line)) = .error (portlessFailure size) := by
    rw [Text.decodeLossy_encode]
    exact parse_portless nonempty
  constructor
  · obtain ⟨rest, read⟩ := readCommand_portless 4068 (by decide)
    obtain ⟨⟨served, serves, -, -, -, readable⟩, -⟩ := rejection_is_read_up_to_limit ⟨1, "iad", none⟩
      (portlessClient 4068) read (rejected (by decide)) (takes _)
    refine ⟨served, serves, fun answer bytes => ?_⟩
    have fits : 28 + 4068 ≤ Framing.commandLimit := by decide
    obtain ⟨others, told, -⟩ := (readable answer bytes).1 (length_reply_portless 4068 ▸ fits)
    exact ⟨others, told⟩
  · obtain ⟨rest, read⟩ := readCommand_portless 4069 (by decide)
    obtain ⟨⟨served, serves, -, -, sent, readable⟩, -⟩ := rejection_is_read_up_to_limit
      ⟨1, "iad", none⟩ (portlessClient 4069) read (rejected (by decide)) (takes _)
    refine ⟨served, serves, sent, fun answer bytes => ?_⟩
    have long : Framing.commandLimit < 28 + 4069 := by decide
    exact (readable answer bytes).2 (length_reply_portless 4069 ▸ long)

end Daemon

end TunnelBroker
