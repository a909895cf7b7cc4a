import TunnelBroker.Client
import TunnelBroker.Daemon.Connection
import TunnelBroker.Proofs.Framing
import TunnelBroker.Proofs.Reply
import TunnelBroker.Proofs.Text.Utf8

/-!
What a client takes for the reply to its request. Main statement: whatever comes from the daemon,
and however it is spread over chunks, the reply is read up to its line feed and not a byte beyond,
so that all that is relayed behind it is still there.
-/

set_option autoImplicit false

namespace TunnelBroker.Client

open Framing (lineFeed commandLimit)

variable {incoming : Incoming}

theorem readReply_of_ended (short : incoming.lineSize ≤ commandLimit)
    (found : lineFeed ∈ incoming.bytes) :
    readReply incoming =
      some ((Reply.parse (Text.decodeLossy (incoming.bytes.take incoming.lineSize))).map
        fun reply => (reply, incoming.skip (incoming.lineSize + 1))) := by
  rw [readReply, Framing.readReply, Framing.readLine_eq_framed, Framing.framed,
    if_neg (Nat.not_lt.2 short), if_pos found, List.nil_append]

theorem readReply_of_long (long : commandLimit < incoming.lineSize) :
    readReply incoming = some (.error (.agent "reply line too long")) := by
  rw [readReply, Framing.readReply, Framing.readLine_eq_framed, Framing.framed, if_pos long]

theorem readReply_of_closed (short : incoming.lineSize ≤ commandLimit)
    (missing : lineFeed ∉ incoming.bytes) (closed : incoming.finish = .closed) :
    readReply incoming = some (.error (.agent "agent closed the connection")) := by
  rw [readReply, Framing.readReply, Framing.readLine_eq_framed, Framing.framed,
    if_neg (Nat.not_lt.2 short), if_neg missing, closed]
  rfl

-- What the daemon writes is read back, unless its line is too long.
theorem readReply_of_replyBytes {reply : Reply} (plain : reply.IsPlain) {more : Bytes}
    (bytes : incoming.bytes = Daemon.replyBytes reply ++ more) :
    if (Text.encode reply.line).length ≤ commandLimit then
      ∃ rest, readReply incoming = some (.ok (reply, rest)) ∧ rest.bytes = more ∧
        rest.finish = incoming.finish
    else readReply incoming = some (.error (.agent "reply line too long")) := by
  have unended : lineFeed ∉ Text.encode reply.line :=
    mt Text.mem_of_lineFeed_mem_encodeChars plain.lineFeed_not_mem
  rw [Daemon.replyBytes, List.append_assoc, List.singleton_append] at bytes
  have framed := Framing.readReply_of_bytes unended bytes
  split at framed
  · next fits =>
    obtain ⟨rest, read, left, finish⟩ := framed
    rw [if_pos fits]
    refine ⟨rest, ?_, left, finish⟩
    simp only [readReply, read, Text.decodeLossy_encode, Reply.parse_line plain]
    rfl
  · next long => rw [if_neg long, readReply, framed]

/--
However the bytes from the daemon are spread over chunks, the reply is what they say before their
first line feed, if that comes after `commandLimit` bytes at most. They are read one at a time, so
that what is left is what follows the line feed. Where more bytes come before it the reply is too
long, and where the connection is closed before it there is none. And a reply of the daemon is read
back from its line, if that is not too long and has no line ends of its own.
-/
theorem reply_is_read_to_its_line_feed (incoming : Incoming) :
    let size := incoming.lineSize
    let rest := incoming.skip (size + 1)
    Framing.readReply incoming = Framing.readOneByOne commandLimit [] incoming ∧
    (size ≤ commandLimit → lineFeed ∈ incoming.bytes →
      readReply incoming = some ((Reply.parse (Text.decodeLossy (incoming.bytes.take size))).map
          fun reply => (reply, rest)) ∧
        rest.bytes = incoming.bytes.drop (size + 1) ∧ rest.finish = incoming.finish) ∧
    (commandLimit < size → readReply incoming = some (.error (.agent "reply line too long"))) ∧
    (size ≤ commandLimit → lineFeed ∉ incoming.bytes → incoming.finish = .closed →
      readReply incoming = some (.error (.agent "agent closed the connection"))) ∧
    ∀ (reply : Reply) (more : Bytes), reply.IsPlain →
      (Text.encode reply.line).length ≤ commandLimit →
      incoming.bytes = Daemon.replyBytes reply ++ more →
      ∃ rest, readReply incoming = some (.ok (reply, rest)) ∧ rest.bytes = more ∧
        rest.finish = incoming.finish := by
  intro size rest
  refine ⟨(Framing.readOneByOne_eq commandLimit [] incoming).symm, fun short found => ?_,
    readReply_of_long, readReply_of_closed, fun reply more plain fits bytes => ?_⟩
  · exact ⟨readReply_of_ended short found, Incoming.of_skip (Incoming.lineSize_lt found)⟩
  · have read := readReply_of_replyBytes plain bytes
    rwa [if_pos fits] at read

end TunnelBroker.Client
