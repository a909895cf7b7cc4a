import TunnelBroker.Proofs.Command

/-!
The lines that carry a command. Main statement: a command comes back from its own line exactly
if it is spelled by words that can be told apart, and a line that carries a command is the line
of this command up to white space and the form of its timeout.
-/

set_option autoImplicit false

namespace TunnelBroker.Command

/-- The timeout that a word gives, in decimal without a sign or leading zeros. Zero milliseconds
are no timeout. -/
def canonicalTimeout (word : String) : List String :=
  let milliseconds := Text.numeralValue word.toList
  if milliseconds = 0 then [] else [toString milliseconds]

/-- The words of a line, with the timeout of a `connect` in its canonical form. A timeout is the
word behind the address, and there is an organization exactly if the first argument has no colon. -/
def canonicalWords : List String → List String
  | ["connect", first, second] =>
    if hasColon first then "connect" :: first :: canonicalTimeout second
    else ["connect", first, second]
  | ["connect", organization, address, timeout] =>
    "connect" :: organization :: address :: canonicalTimeout timeout
  | words => words

theorem line_connect (target : Target) :
    (connect target).line = " ".intercalate ("connect" ::
      (target.organization.toList ++ target.address :: timeoutWords target.timeout)) := by
  obtain ⟨organization, address, timeout⟩ := target
  have first (rest : String) : "connect " ++ rest = "connect" ++ (" " ++ rest) := by
    rw [← String.append_assoc]
    rfl
  cases organization <;> cases timeout <;>
    simp [line, timeoutWords, String.append_assoc, first]

theorem timeoutWords_of_parseTimeout {word : String} {timeout : Option Duration}
    (parsed : parseTimeout word = .ok timeout) : timeoutWords timeout = canonicalTimeout word := by
  unfold parseTimeout at parsed
  split at parsed
  · next value read =>
    have same : value.val = Text.numeralValue word.toList :=
      (Text.readNumeral_eq_ok_iff.1 read).value.symm
    have milliseconds : (Duration.ofMilliseconds (.ofFin value)).milliseconds = value.val :=
      Duration.milliseconds_ofMilliseconds _
    cases parsed
    rw [canonicalTimeout, ← same]
    split
    · rfl
    · rw [timeoutWords, Option.elim_some, milliseconds]
  · cases parsed

theorem timeoutWords_of_readTimeout {word : Option String} {timeout : Option Duration}
    (timed : readTimeout word = .ok timeout) :
    timeoutWords timeout = word.elim [] canonicalTimeout := by
  cases word with
  | none =>
    cases timed
    rfl
  | some word => exact timeoutWords_of_parseTimeout timed

theorem canonicalWords_of_isReadFrom {arguments : List String} {target : Target}
    (isRead : target.IsReadFrom arguments) :
    canonicalWords ("connect" :: arguments) =
      "connect" :: (target.organization.toList ++
        target.address :: timeoutWords target.timeout) := by
  obtain ⟨checked, port, word, rfl, timed⟩ := isRead
  rw [timeoutWords_of_readTimeout timed]
  cases given : target.organization with
  | none => cases word <;> simp [canonicalWords, port]
  | some slug =>
    have noColon := hasColon_of_check (checked slug given)
    cases word <;> simp [canonicalWords, noColon]

-- The line of what is read from words is these words again.
theorem line_of_ofWords {words : List String} {command : Command}
    (parsed : ofWords words = .ok command) :
    command.line = " ".intercalate (canonicalWords words) := by
  unfold ofWords at parsed
  split at parsed
  · cases parsed
    rfl
  · cases parsed
    rfl
  · cases parsed
  · cases parsed
  · obtain ⟨_, -, established⟩ := bind_eq_ok parsed
    cases established
    rfl
  · cases parsed
  · obtain ⟨target, reached, rfl⟩ := map_eq_ok parsed
    rw [line_connect, canonicalWords_of_isReadFrom (parseTarget_eq_ok_iff.1 reached)]
  · cases parsed

theorem spelled_of_parse {line : String} {command : Command}
    (parsed : parse line = .ok command) : command.IsSpelled :=
  spelled_of_ofWords (fun _ member => solid_of_mem_words member) parsed

/-- Commands and their lines. A command is read back from its line exactly if it is spelled: the
organization is a slug, the address has a colon and no white space, and the timeout is a positive
number of milliseconds below 2^64. Every command that is read is spelled, and its line has the
words of the line that was read, but for the form of the timeout. -/
theorem parse_line_exactly :
    (∀ command : Command, parse command.line = .ok command ↔ command.IsSpelled) ∧
      ∀ (line : String) (command : Command), parse line = .ok command →
        command.IsSpelled ∧ command.line = " ".intercalate (canonicalWords (words line)) :=
  ⟨fun _ => ⟨spelled_of_parse, parse_line_of_spelled⟩,
    fun _ _ parsed => ⟨spelled_of_parse parsed, line_of_ofWords parsed⟩⟩

-- Blanks of several kinds, a signed timeout with leading zeros, and a timeout of zero.
theorem line_of_loose_words :
    (parse "\t connect  acme\u00a0db:80 +007\r" =
        .ok (.connect ⟨some "acme", "db:80", some (.ofMilliseconds 7)⟩) ∧
      line (.connect ⟨some "acme", "db:80", some (.ofMilliseconds 7)⟩) = "connect acme db:80 7") ∧
    (parse "connect db:80 000" = .ok (.connect ⟨none, "db:80", none⟩) ∧
      line (.connect ⟨none, "db:80", none⟩) = "connect db:80") := by
  have signed : parse "\t connect  acme\u00a0db:80 +007\r" =
      .ok (.connect ⟨some "acme", "db:80", some (.ofMilliseconds 7)⟩) := rfl
  have zero : parse "connect db:80 000" = .ok (.connect ⟨none, "db:80", none⟩) := rfl
  refine ⟨⟨signed, ?_⟩, zero, ?_⟩
  · exact (parse_line_exactly.2 _ _ signed).2.trans (by decide +kernel)
  · exact (parse_line_exactly.2 _ _ zero).2.trans (by decide +kernel)

end TunnelBroker.Command
