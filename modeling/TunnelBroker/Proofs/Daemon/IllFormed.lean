import TunnelBroker.Proofs.Daemon.Stopping

/-!
Command lines that are no text. Each ill-formed run of bytes becomes a replacement character,
which belongs in no word but an address. Main statement: such a line is refused, without a call to
anyone, unless it is a `connect` whose address has a replacement character, which is looked up and
dialed like any other address.
-/

set_option autoImplicit false

namespace TunnelBroker

/-- The words are those of a `connect` to an address with a replacement character. -/
structure Target.IsGarbled (target : Target) (words : List String) : Prop where
  isRead : ∃ arguments, words = "connect" :: arguments ∧ target.IsReadFrom arguments
  garbled : '\uFFFD' ∈ target.address.toList

namespace Command

/-! ### Where a replacement character may stand -/

theorem replacement_not_mem_of_check {slug : String} (checked : Slug.check slug = .ok ()) :
    '\uFFFD' ∉ slug.toList := fun found =>
  absurd (Slug.isSlugChar_of_check checked _ found) (by decide)

theorem replacement_not_mem_of_readTimeout {word : Option String} {timeout : Option Duration}
    (timed : readTimeout word = .ok timeout) : ∀ text ∈ word, '\uFFFD' ∉ text.toList := by
  intro text given
  obtain ⟨n, numeral⟩ := isNumeral_of_readTimeout timed text given
  exact numeral.not_mem (by decide) (by decide)

end Command

theorem Target.IsReadFrom.replacement_mem_address {target : Target} {arguments : List String}
    (isRead : target.IsReadFrom arguments) {word : String} (member : word ∈ arguments)
    (found : '\uFFFD' ∈ word.toList) : '\uFFFD' ∈ target.address.toList := by
  obtain ⟨timeout, rfl, timed⟩ := isRead.words
  rcases List.mem_append.1 member with isSlug | member
  · have checked := isRead.organization word (Option.mem_toList.1 isSlug)
    exact absurd found (Command.replacement_not_mem_of_check checked)
  · rcases List.mem_cons.1 member with rfl | isTimeout
    · exact found
    · have none := Command.replacement_not_mem_of_readTimeout timed word
      exact absurd found (none (Option.mem_toList.1 isTimeout))

namespace Command

-- The only command whose words can have a replacement character is a `connect`.
theorem isGarbled_of_ofWords {words : List String} {command : Command}
    (parsed : ofWords words = .ok command) {word : String} (member : word ∈ words)
    (found : '\uFFFD' ∈ word.toList) :
    ∃ target, command = .connect target ∧ target.IsGarbled words := by
  unfold ofWords at parsed
  split at parsed
  · cases List.mem_singleton.1 member
    exact absurd found (by decide)
  · cases List.mem_singleton.1 member
    exact absurd found (by decide)
  · cases parsed
  · cases parsed
  · obtain ⟨_, checked, established⟩ := bind_eq_ok parsed
    rcases List.mem_cons.1 member with rfl | isSlug
    · exact absurd found (by decide)
    · cases List.mem_singleton.1 isSlug
      exact absurd found (replacement_not_mem_of_check checked)
  · cases parsed
  · obtain ⟨target, reached, rfl⟩ := map_eq_ok parsed
    have isRead := parseTarget_eq_ok_iff.1 reached
    refine ⟨target, rfl, ⟨_, rfl, isRead⟩, ?_⟩
    rcases List.mem_cons.1 member with rfl | isArgument
    · exact absurd found (by decide)
    · exact isRead.replacement_mem_address isArgument found
  · cases parsed

theorem isGarbled_of_parse {line : Bytes} (broken : Text.decode? line = none) {command : Command}
    (parsed : parse (Text.decodeLossy line) = .ok command) :
    ∃ target, command = .connect target ∧
      target.IsGarbled (words (Text.decodeLossy line)) := by
  obtain ⟨word, member, found⟩ :=
    Text.exists_mem_words (Text.replacement_mem_decodeLossy broken) (by decide)
  refine isGarbled_of_ofWords parsed (List.mem_map_of_mem member) ?_
  rwa [String.toList_ofList]

theorem parse_of_isGarbled {line : String} {target : Target}
    (isGarbled : target.IsGarbled (words line)) : parse line = .ok (.connect target) := by
  obtain ⟨arguments, same, isRead⟩ := isGarbled.isRead
  rw [parse, same]
  show (parseTarget arguments).map Command.connect = _
  rw [parseTarget_eq_ok_iff.2 isRead]
  rfl

end Command

namespace Daemon

variable {client : Stream} {line : Bytes} {terminated : Bool} {rest : Incoming}

-- A connection that carries nothing but a `connect` asks for no more than that takes.
theorem serve_puts_connecting (daemon : Daemon)
    (connects : ∀ command rest, client.incoming.Carries command rest →
      ∃ target, command = .connect target) :
    (daemon.serve client).Puts fun call => ¬ call.IsOutward ∨ call.IsConnecting := by
  refine (daemon.serve_uses client).puts fun call allowed => allowed.imp_right fun put => ?_
  rcases put with (⟨⟨slug, rest, carries⟩, -⟩ | ⟨-, connecting⟩) | ⟨rest, carries⟩
  · obtain ⟨target, wrong⟩ := connects _ rest carries
    cases wrong
  · exact connecting
  · obtain ⟨target, wrong⟩ := connects _ rest carries
    cases wrong

/--
A command line that is no text is refused with the failure of the parser, at once and without a
call, unless its words are those of a `connect` with a replacement character in its address. That
is connected like any other; and whatever the line is, nobody is asked but the registry for the
tunnel, and a network for the address.
-/
theorem ill_formed_is_refused_iff (daemon : Daemon) (client : Stream) {line : Bytes}
    {terminated : Bool} {rest : Incoming}
    (read : Framing.readCommand client.incoming = .read line terminated rest)
    (broken : Text.decode? line = none) :
    let text := Text.decodeLossy line
    ((∃ failure, Command.parse text = .error failure ∧
        daemon.serve client = .done (reject client.outgoing failure)) ↔
      ∀ target : Target, ¬ target.IsGarbled (Command.words text)) ∧
    (∀ target : Target, target.IsGarbled (Command.words text) →
      daemon.serve client = daemon.perform rest client.outgoing (.connect target)) ∧
    (daemon.serve client).Puts fun call => ¬ call.IsOutward ∨ call.IsConnecting := by
  intro text
  refine ⟨⟨?_, fun sound => ?_⟩, fun target isGarbled => ?_, ?_⟩
  · rintro ⟨failure, refused, -⟩ target isGarbled
    cases refused.symm.trans (Command.parse_of_isGarbled isGarbled)
  · cases parsed : Command.parse text with
    | error failure => exact ⟨failure, rfl, by rw [serve, read]; simp only [text, parsed]⟩
    | ok command =>
      obtain ⟨target, -, isGarbled⟩ := Command.isGarbled_of_parse broken parsed
      exact absurd isGarbled (sound target)
  · exact daemon.serve_of_carries ⟨line, terminated, read, Command.parse_of_isGarbled isGarbled⟩
  · apply serve_puts_connecting
    rintro command others ⟨line', terminated', read', parsed⟩
    cases read.symm.trans read'
    obtain ⟨target, same, -⟩ := Command.isGarbled_of_parse broken parsed
    exact ⟨target, same⟩

/-- The line `connect`, and an address whose host is a byte that no text has. -/
def brokenLine : Bytes := Text.encode "connect " ++ 0xFF :: Text.encode ":80"

theorem pieces_brokenLine : Text.pieces brokenLine =
    "connect ".toList.map .character ++ .broken [0xFF] :: ":80".toList.map .character := by
  have first : Text.firstPiece 0xFF (Text.encode ":80") = (.broken [0xFF], Text.encode ":80") := by
    decide
  rw [brokenLine, Text.encode, Text.pieces_encodeChars_append, Text.pieces, first, Text.encode,
    Text.pieces_encodeChars]

def brokenClient : Stream := ⟨⟨[brokenLine ++ [Framing.lineFeed]], .closed⟩, .unlimited⟩

/-- The address is looked up, under the name that the replacement character is. -/
theorem broken_host_is_looked_up :
    Framing.readCommand brokenClient.incoming = .read brokenLine true ⟨[], .closed⟩ ∧
      Text.decode? brokenLine = none ∧
      ∃ next, serve ⟨1, "iad", none⟩ brokenClient = .ask (.lookup .host "\uFFFD") next := by
  have read : Framing.readCommand brokenClient.incoming =
      .read brokenLine true ⟨[], .closed⟩ := by decide +kernel
  have broken : Text.decode? brokenLine = none := by
    rw [Text.decode?, pieces_brokenLine]
    rfl
  have words : Command.words (Text.decodeLossy brokenLine) = ["connect", "\uFFFD:80"] := by
    rw [Text.decodeLossy, pieces_brokenLine]
    decide +kernel
  have isGarbled : Target.IsGarbled ⟨none, "\uFFFD:80", none⟩
      (Command.words (Text.decodeLossy brokenLine)) :=
    ⟨⟨["\uFFFD:80"], words, by simp, by decide, none, rfl, rfl⟩, by decide⟩
  have connects := (ill_formed_is_refused_iff ⟨1, "iad", none⟩ brokenClient read broken).2.1 _
    isGarbled
  exact ⟨read, broken, _, connects⟩

end Daemon

end TunnelBroker
