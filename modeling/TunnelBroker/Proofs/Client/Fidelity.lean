import TunnelBroker.Client.Dialer
import TunnelBroker.Daemon.Connection
import TunnelBroker.Proofs.Command
import TunnelBroker.Proofs.Framing
import TunnelBroker.Proofs.Interaction
import TunnelBroker.Proofs.Text.Utf8

/-!
What becomes of a client's request. Clients check nothing of what they send. Main statement:
if all parts of a command are words, then the daemon carries out this command or none, however
the request is spread over chunks.
-/

set_option autoImplicit false

namespace TunnelBroker

/-- The daemon finds this command on a connection, and has `rest` left. -/
def Incoming.Carries (incoming : Incoming) (command : Command) (rest : Incoming) : Prop :=
  ∃ line terminated, Framing.readCommand incoming = .read line terminated rest ∧
    Command.parse (Text.decodeLossy line) = .ok command

theorem Incoming.Carries.spelled {incoming rest : Incoming} {command : Command}
    (carries : incoming.Carries command rest) : command.IsSpelled := by
  obtain ⟨line, terminated, -, parsed⟩ := carries
  exact Command.spelled_of_ofWords (fun _ => Command.solid_of_mem_words) parsed

def Host.Call.Sends (command : Command) (input : Bytes) (call : Host.Call) : Prop :=
  ∃ socket limit, call = .contact socket (Client.commandBytes command ++ input) limit

/-! ### What clients send -/

namespace Client

theorem isEmpty_commandBytes (command : Command) : (commandBytes command).isEmpty = false := by
  simp [commandBytes]

theorem exchange_sends (client : Client) (command : Command) (input : Bytes)
    (limit : Option Duration) :
    (client.exchange command input limit).Puts (Host.Call.Sends command input) := by
  refine ⟨⟨_, _, rfl⟩, fun contact => ?_⟩
  cases contact <;> trivial

theorem request_sends (client : Client) (command : Command) :
    (client.request command).Puts (Host.Call.Sends command []) := by
  refine (client.exchange_sends command [] _).bind fun answer => ?_
  cases answer <;> trivial

theorem establishTunnel_sends (client : Client) (organization : String) :
    (client.establishTunnel organization).Puts (Host.Call.Sends (.establish organization) []) := by
  refine (client.request_sends _).bind fun answer => ?_
  split <;> trivial

end Client

namespace Dialer

theorem connectWithin_sends (dialer : Dialer) (address : String) (input : Bytes)
    (timeout limit : Option Duration) :
    (dialer.connectWithin address input timeout limit).Puts
      (Host.Call.Sends (dialer.command address timeout) input) := by
  refine (dialer.client.exchange_sends _ input limit).bind fun answer => ?_
  split <;> trivial

theorem connect_sends (dialer : Dialer) (address : String) (input : Bytes)
    (timeout : Option Duration) :
    (dialer.connect address input timeout).Puts
      (Host.Call.Sends (dialer.command address timeout) input) := by
  unfold connect
  split
  · exact dialer.connectWithin_sends ..
  · split
    · trivial
    · exact dialer.connectWithin_sends ..

end Dialer

/-! ### What the daemon finds -/

section

variable {incoming : Incoming} {first : List Char} {more : Bytes}

theorem Framing.readCommand_of_isFirstLine {text : List Char}
    (line : Command.IsFirstLine first text)
    (bytes : incoming.bytes = Text.encodeChars first ++ lineFeed :: more) :
    if (Text.encodeChars first).length < commandLimit then
      ∃ others, readCommand incoming = .read (Text.encodeChars first) true others ∧
        others.bytes = more ∧ others.finish = incoming.finish
    else readCommand incoming = .tooLong :=
  readCommand_of_bytes (mt Text.mem_of_lineFeed_mem_encodeChars line.unended) bytes

-- What is written of a text and a line feed begins with the first line of the text.
theorem Command.IsFirstLine.encoded {text : List Char} (line : IsFirstLine first text)
    (input : Bytes) :
    ∃ more, Text.encodeChars text ++ [Framing.lineFeed] ++ input =
      Text.encodeChars first ++ Framing.lineFeed :: more := by
  rcases line.ends with rfl | ⟨rest, rfl⟩
  · exact ⟨input, by simp⟩
  · rw [Text.encodeChars_append, Text.encodeChars_cons]
    exact ⟨_, by rw [List.append_assoc, List.append_assoc]; rfl⟩

-- A request begins with the first line of its command.
theorem Client.bytes_eq_of_isFirstLine {command : Command} {input : Bytes}
    (line : Command.IsFirstLine first command.line.toList)
    (sent : incoming.bytes = commandBytes command ++ input) :
    ∃ more, incoming.bytes = Text.encodeChars first ++ Framing.lineFeed :: more := by
  rw [sent]
  exact line.encoded input

-- What is found is the command on the first line.
theorem Incoming.carries_of_isFirstLine {text : List Char} {command : Command} {rest : Incoming}
    (line : Command.IsFirstLine first text)
    (bytes : incoming.bytes = Text.encodeChars first ++ Framing.lineFeed :: more)
    (carries : incoming.Carries command rest) :
    (Text.encodeChars first).length < Framing.commandLimit ∧
      Command.parse (String.ofList first) = .ok command := by
  obtain ⟨found, terminated, read, parsed⟩ := carries
  have framed := Framing.readCommand_of_isFirstLine line bytes
  split at framed
  · next fits =>
    obtain ⟨others, whole, _⟩ := framed
    cases whole.symm.trans read
    rw [Text.decodeLossy_encodeChars] at parsed
    exact ⟨fits, parsed⟩
  · exact nomatch framed.symm.trans read

end

namespace Daemon

variable {daemon : Daemon} {incoming : Incoming} {outgoing : Outgoing}

/-- Tell the client why nothing is carried out. -/
inductive Refuses (daemon : Daemon) (incoming : Incoming) (outgoing : Outgoing) : Prop where
  | rejected (failure : Failure)
    (served : daemon.serve ⟨incoming, outgoing⟩ = .done (reject outgoing failure))
  | unreadable (failure : Failure)
    (served : daemon.serve ⟨incoming, outgoing⟩ = .done (unreadable outgoing failure))

-- The command on a connection is the one that is carried out.
theorem serve_of_carries {command : Command} {rest : Incoming}
    (carries : incoming.Carries command rest) :
    daemon.serve ⟨incoming, outgoing⟩ = daemon.perform rest outgoing command := by
  obtain ⟨line, terminated, read, parsed⟩ := carries
  simp only [serve, read, parsed]

-- Of a request its first line is carried out, or it is refused.
theorem serve_of_isFirstLine (daemon : Daemon) (outgoing : Outgoing) {first text : List Char}
    {more : Bytes} (line : Command.IsFirstLine first text)
    (bytes : incoming.bytes = Text.encodeChars first ++ Framing.lineFeed :: more) :
    (∃ command rest, Command.parse (String.ofList first) = .ok command ∧
      incoming.Carries command rest ∧ rest.bytes = more ∧ rest.finish = incoming.finish) ∨
    daemon.Refuses incoming outgoing := by
  have framed := Framing.readCommand_of_isFirstLine line bytes
  split at framed
  · obtain ⟨rest, read, left, ending⟩ := framed
    have decoded := Text.decodeLossy_encodeChars first
    cases parsed : Command.parse (String.ofList first) with
    | ok command => exact .inl ⟨command, rest, rfl, ⟨_, _, read, decoded ▸ parsed⟩, left, ending⟩
    | error failure =>
      exact .inr (.rejected failure (by simp only [serve, read, decoded, parsed]))
  · exact .inr (.unreadable tooLong (by simp only [serve, framed]))

end Daemon

-- What is found of a request is named as its command is.
theorem Incoming.Carries.name_eq {incoming rest : Incoming} {command found : Command}
    {input : Bytes} (sent : incoming.bytes = Client.commandBytes command ++ input)
    (carries : incoming.Carries found rest) : found.name = command.name := by
  obtain ⟨first, line⟩ := Command.exists_isFirstLine command.line.toList
  obtain ⟨more, bytes⟩ := Client.bytes_eq_of_isFirstLine line sent
  obtain ⟨_, parsed⟩ := Incoming.carries_of_isFirstLine line bytes carries
  obtain ⟨others, words⟩ := Command.words_of_isFirstLine line
  rw [Command.parse, words] at parsed
  exact Command.name_of_ofWords parsed

-- The daemon reads the whole line of a request that has one line and is not too long.
theorem Framing.readCommand_of_request {incoming : Incoming} {command : Command} {input : Bytes}
    (sent : incoming.bytes = Client.commandBytes command ++ input)
    (unended : '\n' ∉ command.line.toList)
    (fits : (Text.encode command.line).length < commandLimit) :
    ∃ rest, readCommand incoming = .read (Text.encode command.line) true rest := by
  have bytes : incoming.bytes = Text.encode command.line ++ lineFeed :: input := by
    rw [sent, Client.commandBytes, List.append_assoc, List.singleton_append]
  have framed := readCommand_of_isFirstLine ⟨unended, .inl rfl⟩ bytes
  rw [if_pos (show (Text.encodeChars command.line.toList).length < _ from fits)] at framed
  obtain ⟨rest, read, -⟩ := framed
  exact ⟨rest, read⟩

-- What the line of a command is read as is found.
theorem Incoming.carries_of_parse {incoming : Incoming} {command found : Command} {input : Bytes}
    (sent : incoming.bytes = Client.commandBytes command ++ input)
    (unended : '\n' ∉ command.line.toList)
    (fits : (Text.encode command.line).length < Framing.commandLimit)
    (parsed : Command.parse command.line = .ok found) :
    ∃ rest, incoming.Carries found rest := by
  obtain ⟨rest, read⟩ := Framing.readCommand_of_request sent unended fits
  refine ⟨rest, _, _, read, ?_⟩
  rwa [Text.decodeLossy_encode]

-- The command of a request is found exactly if it is spelled by words and not too long.
theorem Incoming.carries_iff {incoming : Incoming} {command : Command} {input : Bytes}
    (sent : incoming.bytes = Client.commandBytes command ++ input) :
    (∃ rest, incoming.Carries command rest) ↔
      command.IsSpelled ∧ (Text.encode command.line).length < Framing.commandLimit := by
  constructor
  · rintro ⟨rest, carries⟩
    obtain ⟨first, line⟩ := Command.exists_isFirstLine command.line.toList
    obtain ⟨more, bytes⟩ := Client.bytes_eq_of_isFirstLine line sent
    obtain ⟨fits, parsed⟩ := Incoming.carries_of_isFirstLine line bytes carries
    have spelled : command.IsSpelled :=
      Command.spelled_of_ofWords (fun _ => Command.solid_of_mem_words) parsed
    -- A command that is spelled by words has one line only, so the first line is all of it.
    rw [line.eq_of_not_mem spelled.plain.lineFeed_not_mem] at fits
    exact ⟨spelled, fits⟩
  · rintro ⟨spelled, fits⟩
    exact Incoming.carries_of_parse sent spelled.plain.lineFeed_not_mem fits
      (Command.parse_line_of_spelled spelled)

-- A plain command is carried out as it was sent, or it is refused.
theorem Daemon.serve_of_plain (daemon : Daemon) (outgoing : Outgoing) {incoming : Incoming}
    {command : Command} (plain : command.IsPlain) {input : Bytes}
    (sent : incoming.bytes = Client.commandBytes command ++ input) :
    (∃ rest, incoming.Carries command rest ∧ rest.bytes = input ∧ rest.finish = incoming.finish ∧
      daemon.serve ⟨incoming, outgoing⟩ = daemon.perform rest outgoing command) ∨
    daemon.Refuses incoming outgoing := by
  have line : Command.IsFirstLine command.line.toList command.line.toList :=
    ⟨plain.lineFeed_not_mem, .inl rfl⟩
  have bytes : incoming.bytes = Text.encode command.line ++ Framing.lineFeed :: input := by
    rw [sent, Client.commandBytes, List.append_assoc, List.singleton_append]
  rcases daemon.serve_of_isFirstLine outgoing line bytes with
    ⟨found, rest, parsed, carries, left, ending⟩ | refused
  · rw [String.ofList_toList] at parsed
    cases Command.eq_of_parse_line plain parsed
    exact .inl ⟨rest, carries, left, ending, serve_of_carries carries⟩
  · exact .inr refused

/--
Clients send the commands that they are asked for. If the organization of a command is a word
(before an address one without a colon), its address has no white space, and its timeout is a
positive number of milliseconds, then the daemon carries out this command or refuses the
request. Of all commands it finds exactly those that it can tell from their words, within the
limit of a line. Whatever it finds has the name of the command that was sent.
-/
theorem client_command_arrives (client : Client) (organization address : String) (input : Bytes) :
    ((client.establishTunnel organization).Puts (Host.Call.Sends (.establish organization) []) ∧
      ((Dialer.mk client organization).dial address input).Puts
        (Host.Call.Sends (.connect ⟨some organization, address, client.dialTimeout⟩) input) ∧
      ∀ timeout, ((Dialer.mk client organization).dialWithin address input timeout).Puts
        (Host.Call.Sends (.connect ⟨some organization, address, some timeout⟩) input)) ∧
    ∀ (command : Command) (daemon : Daemon) (incoming : Incoming) (outgoing : Outgoing),
      incoming.bytes = Client.commandBytes command ++ input →
        (command.IsPlain →
          (∃ rest, incoming.Carries command rest ∧ rest.bytes = input ∧
            rest.finish = incoming.finish ∧
            daemon.serve ⟨incoming, outgoing⟩ = daemon.perform rest outgoing command) ∨
          daemon.Refuses incoming outgoing) ∧
        ((∃ rest, incoming.Carries command rest) ↔
          command.IsSpelled ∧ (Text.encode command.line).length < Framing.commandLimit) ∧
        ∀ found rest, incoming.Carries found rest → found.name = command.name := by
  refine ⟨⟨client.establishTunnel_sends organization, ?_, fun timeout => ?_⟩,
    fun command daemon incoming outgoing sent => ⟨fun plain => ?_, ?_, fun found rest carries => ?_⟩⟩
  · exact (Dialer.mk client organization).connect_sends address input client.dialTimeout
  · exact (Dialer.mk client organization).connect_sends address input (some timeout)
  · exact daemon.serve_of_plain outgoing plain sent
  · exact Incoming.carries_iff sent
  · exact carries.name_eq sent

/-- A request for one command makes the daemon find another one. -/
def Client.Misleads (sent found : Command) : Prop :=
  sent ≠ found ∧
    ∃ rest, (⟨[commandBytes sent], .closed⟩ : Incoming).Carries found rest

theorem Client.misleads_of_parse {sent found : Command} (differ : sent ≠ found)
    (unended : '\n' ∉ sent.line.toList)
    (fits : (Text.encode sent.line).length < Framing.commandLimit)
    (parsed : Command.parse sent.line = .ok found) : Misleads sent found := by
  have bytes := Incoming.bytes_cons (isEmpty_commandBytes sent) [] .closed
  exact ⟨differ, Incoming.carries_of_parse bytes unended fits parsed⟩

/--
White space, colons and empty parts shift the words of a line, and a timeout is cut to whole
milliseconds, of which there may be none.
-/
theorem other_command_arrives :
    Client.Misleads (.establish " acme") (.establish "acme") ∧
    Client.Misleads (.connect ⟨some "acme ", "db:80", none⟩)
      (.connect ⟨some "acme", "db:80", none⟩) ∧
    Client.Misleads (.connect ⟨some "", "db:80", none⟩) (.connect ⟨none, "db:80", none⟩) ∧
    Client.Misleads (.connect ⟨some "db:80", "5", none⟩)
      (.connect ⟨none, "db:80", some (.ofMilliseconds 5)⟩) ∧
    Client.Misleads (.connect ⟨some "acme", "db:80 5", none⟩)
      (.connect ⟨some "acme", "db:80", some (.ofMilliseconds 5)⟩) ∧
    Client.Misleads (.connect ⟨some "acme", "db:80", some (.ofMilliseconds 0)⟩)
      (.connect ⟨some "acme", "db:80", none⟩) ∧
    Client.Misleads (.connect ⟨some "acme", "db:80", some ⟨1500000, by decide⟩⟩)
      (.connect ⟨some "acme", "db:80", some (.ofMilliseconds 1)⟩) := by
  refine ⟨?_, ?_, ?_, ?_, ?_, ?_, ?_⟩
  all_goals exact Client.misleads_of_parse (by decide) (by decide) (by decide) rfl

end TunnelBroker
