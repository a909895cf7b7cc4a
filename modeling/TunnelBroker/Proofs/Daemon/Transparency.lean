import TunnelBroker.Proofs.Client.Fidelity
import TunnelBroker.Proofs.Registry.Turns
import TunnelBroker.Proofs.Relay

/-!
Connections that carry a `connect`. Main statement: once the dial succeeds, the far end gets
exactly the bytes behind the command line, the client gets exactly the reply and then the bytes
of the far end, and both are then closed once, however the bytes come in.
-/

set_option autoImplicit false

namespace TunnelBroker

-- A line that is short enough carries its command, and what follows it is left.
theorem Incoming.carries_of_line {incoming : Incoming} {line rest : Bytes} {command : Command}
    (sent : incoming.bytes = line ++ Framing.lineFeed :: rest)
    (unended : Framing.lineFeed ∉ line) (short : line.length < Framing.commandLimit)
    (parsed : Command.parse (Text.decodeLossy line) = .ok command) :
    ∃ others : Incoming, incoming.Carries command others ∧ others.bytes = rest ∧
      others.finish = incoming.finish := by
  have framed := Framing.readCommand_of_bytes unended sent
  rw [if_pos short] at framed
  obtain ⟨others, read, left, ending⟩ := framed
  exact ⟨others, ⟨line, true, read, parsed⟩, left, ending⟩

theorem Incoming.carries_of_text {incoming : Incoming} {text : String} {rest : Bytes}
    {command : Command} (sent : incoming.bytes = Text.encode text ++ Framing.lineFeed :: rest)
    (unended : Framing.lineFeed ∉ Text.encode text)
    (short : (Text.encode text).length < Framing.commandLimit)
    (parsed : Command.parse text = .ok command) :
    ∃ others, incoming.Carries command others := by
  rw [← Text.decodeLossy_encode text] at parsed
  obtain ⟨others, carries, -⟩ := incoming.carries_of_line sent unended short parsed
  exact ⟨others, carries⟩

namespace Daemon

variable {σ : Type} {handler : Interaction.Handler Call Call.Answer σ}

theorem run_perform_connect (daemon : Daemon) {state after : σ} {target : Target}
    {farEnd : Relay.FarEnd}
    (dialed : (daemon.dialTarget target).run handler state = (.ok farEnd, after))
    (rest : Incoming) (outgoing : Outgoing) :
    (daemon.perform rest outgoing (.connect target)).run handler state =
      (relay rest outgoing farEnd, after) := by
  show ((daemon.dialTarget target).bind _).run handler state = _
  rw [Interaction.run_bind, dialed]
  rfl

/-- The client gets the reply and then exactly these bytes, beside what goes to the far end. -/
structure Served.IsRelayed (served : Served) (outbound : List Relay.Action) (up : Bytes) :
    Prop where
  reply : served.reply = Text.encode "ok\n"
  transfer : ∃ inbound, served.transfer = some ⟨outbound, inbound⟩ ∧ Relay.Transmits inbound up
  ended : served.ended = some (.ok ())

theorem Served.IsRelayed.sent {served : Served} {outbound : List Relay.Action} {up : Bytes}
    (relayed : served.IsRelayed outbound up) : served.sent = Text.encode "ok\n" ++ up := by
  obtain ⟨inbound, transfer, transmits⟩ := relayed.transfer
  rw [Served.sent, relayed.reply, transfer, Option.elim_some, transmits.delivered]

-- What the far end sends may depend on what it got, so the outbound direction is settled first.
theorem isRelayed_relay {rest : Incoming} {outgoing : Outgoing} {farEnd : Relay.FarEnd}
    {outbound : List Relay.Action} {bytes : Bytes}
    (going : Relay.pump rest farEnd.outgoing = outbound) (gone : Relay.Transmits outbound bytes)
    (ends : (farEnd.incoming outbound).finish ≠ .silent)
    (takes : outgoing.Takes
      ((Text.encode "ok\n").length + (farEnd.incoming outbound).bytes.length)) :
    (relay rest outgoing farEnd).IsRelayed outbound (farEnd.incoming outbound).bytes := by
  obtain ⟨next, written, left⟩ := takes.write
  have replied : outgoing.write (replyBytes .ok) = (Text.encode "ok\n", true, next) := written
  have coming := Relay.transmits_pump ends left
  have finished : Relay.Transfer.isFinished
      ⟨outbound, Relay.pump (farEnd.incoming outbound) next⟩ = true := by
    rw [Relay.Transfer.isFinished, gone.isFinished, coming.isFinished, Bool.and_self]
  have relayed : relay rest outgoing farEnd = ⟨Text.encode "ok\n",
      some ⟨outbound, Relay.pump (farEnd.incoming outbound) next⟩, some (.ok ())⟩ := by
    simp only [relay, replied, if_true, Relay.relay, going, finished]
  rw [relayed]
  exact ⟨rfl, ⟨_, rfl, coming⟩, rfl⟩

/--
A connection whose command line is a `connect` is transparent once the dial succeeds. However
the bytes come in, and as long as both sides take them: the far end gets exactly what follows
the command line and is closed once, and the client gets exactly the reply and then what the
far end sends, and is closed once.
-/
theorem connect_is_transparent (daemon : Daemon) {state after : σ} {incoming : Incoming}
    {outgoing : Outgoing} {line rest : Bytes} {target : Target} {farEnd : Relay.FarEnd}
    (sent : incoming.bytes = line ++ Framing.lineFeed :: rest)
    (closed : incoming.finish = .closed)
    (unended : Framing.lineFeed ∉ line) (short : line.length < Framing.commandLimit)
    (parsed : Command.parse (Text.decodeLossy line) = .ok (.connect target))
    (dialed : (daemon.dialTarget target).run handler state = (.ok farEnd, after))
    (forward : farEnd.outgoing.Takes rest.length) :
    ∃ outbound, Relay.Transmits outbound rest ∧
      ∀ up, (farEnd.incoming outbound).bytes = up → (farEnd.incoming outbound).finish = .closed →
        outgoing.Takes ((Text.encode "ok\n").length + up.length) →
        ∃ served, (daemon.serve ⟨incoming, outgoing⟩).run handler state = (served, after) ∧
          served.IsRelayed outbound up ∧ served.sent = Text.encode "ok\n" ++ up := by
  obtain ⟨others, carries, rfl, ending⟩ := incoming.carries_of_line sent unended short parsed
  have unsilent : others.finish ≠ .silent := by
    rw [ending, closed]
    decide
  have gone := Relay.transmits_pump unsilent forward
  refine ⟨_, gone, ?_⟩
  rintro up rfl ends takes
  have relayed := isRelayed_relay rfl gone (ends ▸ Ending.noConfusion) takes
  refine ⟨_, ?_, relayed, relayed.sent⟩
  rw [serve_of_carries carries, daemon.run_perform_connect dialed]

/-- Takes five bytes in all, one at a time, and sends back what it got in the same way. -/
def echo : Relay.FarEnd where
  outgoing := ⟨some 1, some 5⟩
  incoming outbound := ⟨(Relay.delivered outbound).map fun b => [b], .closed⟩

def echoing : Interaction.Handler Call Call.Answer Unit
  | .dial .., state => (.ended (.ok echo), state)
  | call, state => (obliging call, state)

/-- A request whose line ends in the second chunk, and a client that takes just the answer. -/
def greeting : Stream where
  incoming := ⟨[Text.encode "connect 127.0", Text.encode ".0.1:7 050\nhel", Text.encode "lo"],
    .closed⟩
  outgoing := ⟨some 2, some 8⟩

theorem greeting_is_echoed :
    ∃ outbound served, Relay.Transmits outbound (Text.encode "hello") ∧
      (serve ⟨1, "iad", none⟩ greeting).run echoing () = (served, ()) ∧
      served.IsRelayed outbound (Text.encode "hello") ∧
      served.sent = Text.encode "ok\n" ++ Text.encode "hello" := by
  have sent : greeting.incoming.bytes =
      Text.encode "connect 127.0.0.1:7 050" ++ Framing.lineFeed :: Text.encode "hello" := by
    decide +kernel
  have parsed : Command.parse (Text.decodeLossy (Text.encode "connect 127.0.0.1:7 050")) =
      .ok (.connect ⟨none, "127.0.0.1:7", some (.ofMilliseconds 50)⟩) := by
    rw [Text.encode, Text.decodeLossy_encodeChars]
    rfl
  have dialed : ((Daemon.mk 1 "iad" none).dialTarget
      ⟨none, "127.0.0.1:7", some (.ofMilliseconds 50)⟩).run echoing () = (.ok echo, ()) := rfl
  have forward : echo.outgoing.Takes (Text.encode "hello").length := ⟨by decide, by decide⟩
  obtain ⟨outbound, gone, relayed⟩ := connect_is_transparent _ sent rfl (by decide +kernel)
    (by decide +kernel) parsed dialed forward
  have back : echo.incoming outbound = ⟨(Text.encode "hello").map fun b => [b], .closed⟩ := by
    simp only [echo, gone.delivered]
  have echoed : (echo.incoming outbound).bytes = Text.encode "hello" := by
    rw [back]
    decide +kernel
  have ends : (echo.incoming outbound).finish = .closed := by
    rw [back]
    decide +kernel
  have room : greeting.outgoing.Takes
      ((Text.encode "ok\n").length + (Text.encode "hello").length) := ⟨by decide, by decide⟩
  obtain ⟨served, runs, through⟩ := relayed _ echoed ends room
  exact ⟨outbound, served, gone, runs, through⟩

end Daemon

end TunnelBroker
