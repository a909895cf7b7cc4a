import TunnelBroker.Daemon.Connection
import TunnelBroker.Proofs.Command
import TunnelBroker.Proofs.Framing
import TunnelBroker.Proofs.Text.Utf8

/-!
What the daemon takes for the command line of a connection. Main statement: whatever comes in,
and however it is spread over chunks, the line is read exactly if fewer than 4096 bytes stand
before its line feed or the end, and what follows the line feed is left on the connection.
-/

set_option autoImplicit false

namespace TunnelBroker.Daemon

open Framing (lineFeed commandLimit readCommand)

/-- Carry out the command of a line's text, or tell the client why there is none. -/
def obey (daemon : Daemon) (rest : Incoming) (outgoing : Outgoing) (text : String) : Task Served :=
  match Command.parse text with
  | .error failure => .done (reject outgoing failure)
  | .ok command => daemon.perform rest outgoing command

theorem obey_append_lineFeed (daemon : Daemon) (rest : Incoming) (outgoing : Outgoing)
    (text : String) : daemon.obey rest outgoing (text ++ "\n") = daemon.obey rest outgoing text := by
  rw [obey, Command.parse_append_lineFeed, obey]

theorem serve_of_read {daemon : Daemon} {incoming rest : Incoming} {outgoing : Outgoing}
    {line : Bytes} {terminated : Bool} (read : readCommand incoming = .read line terminated rest) :
    daemon.serve ⟨incoming, outgoing⟩ = daemon.obey rest outgoing (Text.decodeLossy line) := by
  simp only [serve, read]
  rfl

-- The line feed is decoded on its own, and then it is white space.
theorem obey_decodeLossy_append_lineFeed (daemon : Daemon) (rest : Incoming) (outgoing : Outgoing)
    (line : Bytes) :
    daemon.obey rest outgoing (Text.decodeLossy (line ++ [lineFeed])) =
      daemon.obey rest outgoing (Text.decodeLossy line) := by
  rw [lineFeed, Text.decodeLossy_append_lineFeed, obey_append_lineFeed]

/--
However the bytes of a connection are spread over chunks, its command line is read if fewer than
`commandLimit` bytes stand before the line feed, or before the end of a stream without one, and is
refused as too long otherwise. The line, with its line feed, is decoded and obeyed; and what is left
on the connection is what follows the line feed, each byte up to it having been asked for once.
-/
theorem command_line_is_framed (incoming : Incoming) :
    let size := incoming.lineSize
    let rest := incoming.skip (size + 1)
    (size < commandLimit → lineFeed ∈ incoming.bytes ∨ incoming.finish = .closed →
      readCommand incoming =
          .read (incoming.bytes.take size) (decide (lineFeed ∈ incoming.bytes)) rest ∧
        (lineFeed ∈ incoming.bytes →
          rest.bytes = incoming.bytes.drop (size + 1) ∧ rest.finish = incoming.finish) ∧
        ∀ (daemon : Daemon) (outgoing : Outgoing), daemon.serve ⟨incoming, outgoing⟩ =
          daemon.obey rest outgoing (Text.decodeLossy (incoming.bytes.take (size + 1)))) ∧
    (commandLimit ≤ size → readCommand incoming = .tooLong ∧
      ∀ (daemon : Daemon) (outgoing : Outgoing),
        daemon.serve ⟨incoming, outgoing⟩ = .done (unreadable outgoing tooLong)) ∧
    ∀ other : Incoming, other.bytes = incoming.bytes → other.finish = incoming.finish →
      (readCommand other).Alike (readCommand incoming) := by
  intro size rest
  have framed : readCommand incoming = Framing.framed (commandLimit - 1) [] incoming :=
    Framing.readLine_eq_framed _ incoming
  refine ⟨fun short settled => ?_, fun long => ?_, fun other bytes finish => ?_⟩
  · rw [Framing.framed, if_neg (Nat.not_lt.2 (Nat.le_sub_one_of_lt short)), List.nil_append,
      List.nil_append] at framed
    by_cases found : lineFeed ∈ incoming.bytes
    · rw [if_pos found] at framed
      refine ⟨?_, fun _ => Incoming.of_skip (Incoming.lineSize_lt found), fun daemon outgoing => ?_⟩
      · rw [framed, decide_eq_true found]
      · rw [serve_of_read framed, Incoming.take_lineSize_succ found,
          obey_decodeLossy_append_lineFeed]
    · have closed : incoming.finish = .closed := settled.resolve_left found
      have whole : size = incoming.bytes.length := Incoming.lineSize_of_not_mem found
      rw [if_neg found, closed] at framed
      refine ⟨?_, fun absurd => (found absurd).elim, fun daemon outgoing => ?_⟩
      · rw [framed, decide_eq_false found, whole, List.take_length]
        rfl
      · rw [serve_of_read framed, whole, List.take_of_length_le (Nat.le_succ _)]
  · have refused : readCommand incoming = .tooLong := by
      rw [framed, Framing.framed, if_pos (Nat.lt_of_lt_of_le (by decide) long)]
    refine ⟨refused, fun daemon outgoing => ?_⟩
    rw [serve, refused]
  · exact Framing.readLine_alike bytes finish _

end TunnelBroker.Daemon
