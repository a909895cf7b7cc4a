import TunnelBroker.Command
import TunnelBroker.Proofs.Outcome
import TunnelBroker.Proofs.Slug
import TunnelBroker.Proofs.Text.Numeral

/-!
Commands as lines and back. A command whose parts are words is read back from its line, or
its line is refused. Whatever is read from a line keeps the first word of the line.
-/

set_option autoImplicit false

namespace TunnelBroker

namespace Duration

/-- A positive number of milliseconds, with nothing between them. -/
structure IsWhole (span : Duration) : Prop where
  positive : span.milliseconds ≠ 0
  exact : span.nanoseconds = span.milliseconds * 1000000

@[simp]
theorem milliseconds_ofMilliseconds (milliseconds : UInt64) :
    (ofMilliseconds milliseconds).milliseconds = milliseconds.toNat := by
  simp [Duration.milliseconds, ofMilliseconds]

theorem IsWhole.eq_ofMilliseconds {span : Duration} (whole : span.IsWhole)
    (bound : span.milliseconds < UInt64.size) :
    ofMilliseconds (.ofFin ⟨span.milliseconds, bound⟩) = span := by
  obtain ⟨nanoseconds, bounded⟩ := span
  have exact := whole.exact
  simp only [ofMilliseconds, Duration.mk.injEq]
  exact exact.symm

end Duration

/-- Every part is a word of its own, and the timeout is a number that can be sent. -/
structure Target.IsPlain (target : Target) : Prop where
  organization : ∀ slug, target.organization = some slug →
    slug.isEmpty = false ∧ Text.IsSolid slug ∧ Command.hasColon slug = false
  address : Text.IsSolid target.address
  timeout : ∀ span, target.timeout = some span → span.IsWhole

/-- A target that the daemon can tell from its words. -/
structure Target.IsSpelled (target : Target) : Prop where
  organization : ∀ slug, target.organization = some slug → Slug.check slug = .ok ()
  address : Text.IsSolid target.address
  port : Command.hasColon target.address = true
  timeout : ∀ span, target.timeout = some span →
    span.IsWhole ∧ span.milliseconds < UInt64.size

namespace Command

def readTimeout : Option String → Except Failure (Option Duration)
  | none => .ok none
  | some word => parseTimeout word

end Command

/-- A target is that of a `connect` with the given arguments. -/
structure Target.IsReadFrom (target : Target) (arguments : List String) : Prop where
  organization : ∀ slug, target.organization = some slug → Slug.check slug = .ok ()
  port : Command.hasColon target.address = true
  words : ∃ word : Option String,
    arguments = target.organization.toList ++ target.address :: word.toList ∧
      Command.readTimeout word = .ok target.timeout

namespace Command

def IsPlain : Command → Prop
  | ping => True
  | kill => True
  | establish organization => Text.IsSolid organization
  | connect target => target.IsPlain

def IsSpelled : Command → Prop
  | ping => True
  | kill => True
  | establish organization => Slug.check organization = .ok ()
  | connect target => target.IsSpelled

theorem hasColon_iff {word : String} : hasColon word = true ↔ ':' ∈ word.toList := by
  simp [hasColon]

theorem hasColon_of_check {slug : String} (checked : Slug.check slug = .ok ()) :
    hasColon slug = false := by
  rw [Bool.eq_false_iff, ne_eq, hasColon_iff]
  exact Slug.colon_not_mem_of_check checked

theorem IsSpelled.plain {command : Command} (spelled : command.IsSpelled) : command.IsPlain := by
  cases command with
  | ping => trivial
  | kill => trivial
  | establish organization => exact Slug.solid_of_check spelled
  | connect target =>
    refine ⟨fun slug given => ?_, spelled.address, fun span given => (spelled.timeout span given).1⟩
    have checked := spelled.organization slug given
    exact ⟨Slug.nonempty_of_check checked, Slug.solid_of_check checked, hasColon_of_check checked⟩

/-! ### The words of a line -/

theorem words_append_space (first second : String) :
    words (first ++ " " ++ second) = words first ++ words second := by
  simp only [words, String.toList_append, ← List.map_append]
  rw [show " ".toList = [' '] from rfl, List.append_assoc, List.singleton_append,
    Text.words_append (by decide)]

theorem parse_append_lineFeed (line : String) : parse (line ++ "\n") = parse line := by
  have same : words (line ++ "\n") = words line := by
    rw [words, String.toList_append, show "\n".toList = ['\n'] from rfl,
      Text.words_append (by decide)]
    exact congrArg (List.map String.ofList) (List.append_nil _)
  rw [parse, same, parse]

theorem words_of_solid {text : String} (solid : Text.IsSolid text) :
    words text = if text.isEmpty then [] else [text] := by
  rw [words, Text.words_of_solid solid]
  cases empty : text.isEmpty <;> simp_all

theorem solid_of_mem_words {word line : String} (found : word ∈ words line) :
    Text.IsSolid word := by
  obtain ⟨characters, member, rfl⟩ := List.mem_map.1 found
  rw [Text.IsSolid, String.toList_ofList]
  exact (Text.solid_of_mem_words member).2

theorem solid_toString (n : Nat) : Text.IsSolid (toString n) := fun c found =>
  (Text.isNumeral_toDigits n).solid c (by simpa using found)

theorem words_toString (n : Nat) : words (toString n) = [toString n] := by
  rw [words_of_solid (solid_toString n), if_neg]
  simp

-- What is written of words is split into them again.
theorem words_intercalate {texts : List String}
    (isWord : ∀ text ∈ texts, text.isEmpty = false ∧ Text.IsSolid text) :
    words (" ".intercalate texts) = texts := by
  induction texts with
  | nil => decide
  | cons first texts ih =>
    obtain ⟨⟨nonempty, solid⟩, others⟩ := List.forall_mem_cons.1 isWord
    have alone : words first = [first] := by
      rw [words_of_solid solid, nonempty]
      rfl
    cases texts with
    | nil => rw [String.intercalate_singleton, alone]
    | cons second texts =>
      rw [String.intercalate_cons_cons, words_append_space, alone, ih others]
      rfl

theorem words_line_establish (organization : String) :
    words (establish organization).line = "establish" :: words organization :=
  words_append_space "establish" organization

/-- What stands on a line for a timeout. -/
def timeoutWords (timeout : Option Duration) : List String :=
  timeout.elim [] fun span => [toString span.milliseconds]

theorem words_line_connect (target : Target) :
    words (connect target).line =
      "connect" :: (target.organization.elim [] words ++
        (words target.address ++ timeoutWords target.timeout)) := by
  obtain ⟨organization, address, timeout⟩ := target
  have first (rest : String) : words ("connect " ++ rest) = "connect" :: words rest :=
    words_append_space "connect" rest
  have last (n : Nat) : words n.repr = [n.repr] := words_toString n
  cases organization <;> cases timeout <;>
    simp [line, ← String.append_assoc, words_append_space, first, last, timeoutWords]

/-! ### Reading words -/

theorem parseTimeout_toString (n : Nat) :
    parseTimeout (toString n) =
      if fits : n < UInt64.size then
        .ok (if n = 0 then none else some (.ofMilliseconds (.ofFin ⟨n, fits⟩)))
      else .error (Fault.badTimeout (toString n)).failure := by
  rw [parseTimeout, show (toString n).toList = Nat.toDigits 10 n by simp,
    Text.readNumeral_toDigits]
  by_cases fits : n < UInt64.size <;> simp only [fits, dite_true, dite_false]

theorem bound_of_parseTimeout {word : String} {span : Duration}
    (parsed : parseTimeout word = .ok (some span)) :
    span.IsWhole ∧ span.milliseconds < UInt64.size := by
  unfold parseTimeout at parsed
  split at parsed
  · next value _ =>
    split at parsed
    · cases parsed
    · next nonzero =>
      cases parsed
      have milliseconds : (Duration.ofMilliseconds (.ofFin value)).milliseconds = value :=
        Duration.milliseconds_ofMilliseconds _
      refine ⟨⟨?_, ?_⟩, ?_⟩
      · rwa [milliseconds]
      · rw [milliseconds]
        rfl
      · rw [milliseconds]
        exact value.isLt
  · cases parsed

theorem parseAddress_eq_ok_iff {arguments : List String} {address : String}
    {timeout : Option Duration} :
    parseAddress arguments = .ok (address, timeout) ↔ ∃ word : Option String,
      arguments = address :: word.toList ∧ readTimeout word = .ok timeout := by
  constructor
  · intro parsed
    unfold parseAddress at parsed
    split at parsed
    · cases parsed
      exact ⟨none, rfl, rfl⟩
    · next word =>
      obtain ⟨bound, timed, same⟩ := bind_eq_ok (show (parseTimeout _).bind _ = _ from parsed)
      cases same
      exact ⟨some word, rfl, timed⟩
    · cases parsed
  · rintro ⟨_ | word, rfl, timed⟩
    · cases timed
      rfl
    · show (parseTimeout word).bind _ = _
      rw [show parseTimeout word = .ok timeout from timed]
      rfl

/-- Put a target together, if its address has a port. -/
def reach (organization : Option String) : String × Option Duration → Except Failure Target
  | (address, timeout) =>
    if hasColon address then .ok ⟨organization, address, timeout⟩
    else .error (Fault.missingPort address).failure

theorem parseTarget_of_colon {first : String} (colon : hasColon first = true)
    (arguments : List String) :
    parseTarget (first :: arguments) = (parseAddress (first :: arguments)).bind (reach none) := by
  simp only [parseTarget, colon, if_true]
  rfl

theorem parseTarget_of_slug {first : String} (colon : hasColon first = false)
    (arguments : List String) :
    parseTarget (first :: arguments) =
      (Slug.check first).bind fun _ => (parseAddress arguments).bind (reach (some first)) := by
  simp only [parseTarget, colon, Bool.false_eq_true, if_false]
  cases Slug.check first with
  | error failure => rfl
  | ok _ => rfl

theorem eq_of_reach_eq_ok {organization : Option String} {address : String}
    {timeout : Option Duration} {target : Target}
    (reached : reach organization (address, timeout) = .ok target) :
    hasColon address = true ∧ target = ⟨organization, address, timeout⟩ := by
  simp only [reach] at reached
  split at reached
  · next colon => exact ⟨colon, (Except.ok.inj reached).symm⟩
  · cases reached

-- What the arguments of a `connect` have to be.
theorem parseTarget_eq_ok_iff {arguments : List String} {target : Target} :
    parseTarget arguments = .ok target ↔ target.IsReadFrom arguments := by
  constructor
  · intro parsed
    cases arguments with
    | nil => cases parsed
    | cons first arguments =>
      cases colon : hasColon first with
      | true =>
        rw [parseTarget_of_colon colon] at parsed
        obtain ⟨⟨address, timeout⟩, addressed, reached⟩ := bind_eq_ok parsed
        obtain ⟨port, rfl⟩ := eq_of_reach_eq_ok reached
        exact ⟨nofun, port, parseAddress_eq_ok_iff.1 addressed⟩
      | false =>
        rw [parseTarget_of_slug colon] at parsed
        obtain ⟨_, checked, rest⟩ := bind_eq_ok parsed
        obtain ⟨⟨address, timeout⟩, addressed, reached⟩ := bind_eq_ok rest
        obtain ⟨port, rfl⟩ := eq_of_reach_eq_ok reached
        obtain ⟨word, rfl, timed⟩ := parseAddress_eq_ok_iff.1 addressed
        refine ⟨?_, port, word, rfl, timed⟩
        rintro slug ⟨⟩
        exact checked
  · obtain ⟨organization, address, timeout⟩ := target
    rintro ⟨checked, port, word, rfl, timed⟩
    have addressed : parseAddress (address :: word.toList) = .ok (address, timeout) :=
      parseAddress_eq_ok_iff.2 ⟨word, rfl, timed⟩
    have reached : reach organization (address, timeout) = .ok ⟨organization, address, timeout⟩ :=
      if_pos port
    cases organization with
    | none =>
      show parseTarget (address :: word.toList) = _
      rw [parseTarget_of_colon port, addressed]
      exact reached
    | some slug =>
      have checked := checked slug rfl
      show parseTarget (slug :: address :: word.toList) = _
      rw [parseTarget_of_slug (hasColon_of_check checked), checked]
      show (parseAddress (address :: word.toList)).bind _ = _
      rw [addressed]
      exact reached

theorem parse_of_isReadFrom {line : String} {arguments : List String} {target : Target}
    (found : words line = "connect" :: arguments) (isRead : target.IsReadFrom arguments) :
    parse line = .ok (connect target) := by
  rw [parse, found]
  show (parseTarget arguments).map connect = _
  rw [parseTarget_eq_ok_iff.2 isRead]
  rfl

theorem isNumeral_of_readTimeout {word : Option String} {timeout : Option Duration}
    (timed : readTimeout word = .ok timeout) : ∀ text ∈ word, ∃ n, Text.IsNumeral text.toList n := by
  rintro text rfl
  simp only [readTimeout, parseTimeout] at timed
  split at timed
  · next value read => exact ⟨value.val, Text.readNumeral_eq_ok_iff.1 read⟩
  · cases timed

theorem isWord_of_readTimeout {word : Option String} {timeout : Option Duration}
    (timed : readTimeout word = .ok timeout) :
    ∀ text ∈ word, text.isEmpty = false ∧ Text.IsSolid text := by
  intro text given
  obtain ⟨n, numeral⟩ := isNumeral_of_readTimeout timed text given
  exact ⟨by simpa using numeral.ne_nil, numeral.solid⟩

theorem spelled_of_isReadFrom {arguments : List String} {target : Target}
    (isRead : target.IsReadFrom arguments) (solid : ∀ word ∈ arguments, Text.IsSolid word) :
    target.IsSpelled := by
  obtain ⟨word, rfl, timed⟩ := isRead.words
  refine ⟨isRead.organization, solid _ (by simp), isRead.port, ?_⟩
  intro span given
  rw [given] at timed
  cases word with
  | none => cases timed
  | some word => exact bound_of_parseTimeout timed

-- Whatever is read is spelled by words.
theorem spelled_of_ofWords {words : List String} {command : Command}
    (solid : ∀ word ∈ words, Text.IsSolid word) (parsed : ofWords words = .ok command) :
    command.IsSpelled := by
  unfold ofWords at parsed
  split at parsed
  · cases parsed
    trivial
  · cases parsed
    trivial
  · cases parsed
  · cases parsed
  · next organization =>
    obtain ⟨_, checked, established⟩ := bind_eq_ok parsed
    cases established
    exact checked
  · cases parsed
  · next arguments =>
    obtain ⟨target, reached, rfl⟩ := map_eq_ok parsed
    have others : ∀ word ∈ arguments, Text.IsSolid word := fun word member =>
      solid word (List.mem_cons_of_mem _ member)
    exact spelled_of_isReadFrom (parseTarget_eq_ok_iff.1 reached) others
  · cases parsed

-- The first word of a line names its command.
theorem name_of_ofWords {first : String} {words : List String} {command : Command}
    (parsed : ofWords (first :: words) = .ok command) : command.name = first := by
  unfold ofWords at parsed
  split at parsed
  · next same =>
    cases parsed
    exact (List.cons.inj same).1.symm
  · next same =>
    cases parsed
    exact (List.cons.inj same).1.symm
  · cases parsed
  · cases parsed
  · next organization same =>
    obtain ⟨_, _, established⟩ := bind_eq_ok parsed
    cases established
    exact (List.cons.inj same).1.symm
  · cases parsed
  · next arguments same =>
    obtain ⟨target, -, rfl⟩ := map_eq_ok parsed
    exact (List.cons.inj same).1.symm
  · cases parsed

/-! ### Reading the line of a command -/

theorem parse_line_establish {organization : String} (solid : Text.IsSolid organization) :
    parse (establish organization).line =
      if organization.isEmpty then .error Fault.establishUsage.failure
      else (Slug.check organization).map fun _ => establish organization := by
  rw [parse, words_line_establish, words_of_solid solid]
  split
  · rfl
  · cases checked : Slug.check organization with
    | error failure => simp only [ofWords, checked]; rfl
    | ok _ => simp only [ofWords, checked]; rfl

theorem parse_line_connect (target : Target) :
    parse (connect target).line =
      (parseTarget (target.organization.elim [] words ++
        (words target.address ++ timeoutWords target.timeout))).map connect := by
  rw [parse, words_line_connect]
  rfl

theorem parseTimeout_of_whole {span : Duration} (whole : span.IsWhole)
    (bound : span.milliseconds < UInt64.size) :
    parseTimeout (toString span.milliseconds) = .ok (some span) := by
  rw [parseTimeout_toString, dif_pos bound, if_neg whole.positive, whole.eq_ofMilliseconds bound]

theorem hasColon_toString (n : Nat) : hasColon (toString n) = false := by
  rw [Bool.eq_false_iff, ne_eq, hasColon_iff]
  simpa using Text.not_mem_toDigits rfl n

-- A timeout alone is no address.
theorem reach_timeoutWords (organization : Option String) (timeout : Option Duration)
    (target : Target) :
    (parseAddress (timeoutWords timeout)).bind (reach organization) ≠ .ok target := by
  cases timeout with
  | none => exact nofun
  | some span =>
    have reached : (parseAddress (timeoutWords (some span))).bind (reach organization) =
        reach organization (toString span.milliseconds, none) := rfl
    simp only [reached, reach, hasColon_toString, Bool.false_eq_true, if_false, ne_eq, reduceCtorEq,
      not_false_eq_true]

theorem eq_of_parseAddress {address : String} {timeout : Option Duration}
    (whole : ∀ span, timeout = some span → span.IsWhole) {found : String × Option Duration}
    (parsed : parseAddress (address :: timeoutWords timeout) = .ok found) :
    found = (address, timeout) := by
  cases timeout with
  | none =>
    cases parsed
    rfl
  | some span =>
    obtain ⟨bound, timed, same⟩ := bind_eq_ok (show (parseTimeout _).bind _ = _ from parsed)
    cases same
    rw [parseTimeout_toString] at timed
    split at timed
    · next fits =>
      rw [if_neg (whole span rfl).positive, (whole span rfl).eq_ofMilliseconds fits] at timed
      rw [Except.ok.inj timed]
    · cases timed

-- An address and a timeout are read back, or they are refused.
theorem eq_of_reach {target found : Target} (plain : target.IsPlain) {organization : Option String}
    (reached : (parseAddress (words target.address ++ timeoutWords target.timeout)).bind
      (reach organization) = .ok found) :
    found = { target with organization := organization } := by
  rw [words_of_solid plain.address] at reached
  split at reached
  · exact (reach_timeoutWords _ _ _ reached).elim
  · obtain ⟨⟨address, timeout⟩, parsed, reached⟩ := bind_eq_ok reached
    cases eq_of_parseAddress plain.timeout parsed
    exact (eq_of_reach_eq_ok reached).2

theorem others_eq_timeoutWords {address word : String} (solid : Text.IsSolid address)
    {timeout : Option Duration} {others : List String}
    (first : words address ++ timeoutWords timeout = word :: others) :
    others = timeoutWords timeout ∨ others = [] := by
  rw [words_of_solid solid] at first
  split at first
  · cases timeout with
    | none => cases first
    | some span =>
      cases first
      exact .inr rfl
  · cases first
    exact .inl rfl

theorem eq_of_parseTarget {target found : Target} (plain : target.IsPlain)
    (parsed : parseTarget (target.organization.elim [] words ++
      (words target.address ++ timeoutWords target.timeout)) = .ok found) : found = target := by
  cases given : target.organization with
  | some slug =>
    obtain ⟨nonempty, solid, noColon⟩ := plain.organization slug given
    rw [given, Option.elim_some, words_of_solid solid, nonempty, if_neg Bool.false_ne_true,
      List.singleton_append, parseTarget_of_slug noColon] at parsed
    obtain ⟨_, _, reached⟩ := bind_eq_ok parsed
    rw [eq_of_reach plain reached, ← given]
  | none =>
    -- An address without a colon is taken for an organization, and then there is no address.
    rw [given, Option.elim_none, List.nil_append] at parsed
    cases first : words target.address ++ timeoutWords target.timeout with
    | nil =>
      rw [first] at parsed
      cases parsed
    | cons word others =>
      rw [first] at parsed
      cases colon : hasColon word with
      | true =>
        rw [parseTarget_of_colon colon, ← first] at parsed
        rw [eq_of_reach plain parsed, ← given]
      | false =>
        rw [parseTarget_of_slug colon] at parsed
        obtain ⟨_, _, reached⟩ := bind_eq_ok parsed
        rcases others_eq_timeoutWords plain.address first with rfl | rfl
        · exact (reach_timeoutWords _ _ _ reached).elim
        · exact (reach_timeoutWords _ none _ reached).elim

-- What is read from the line of a plain command is this command.
theorem eq_of_parse_line {command found : Command} (plain : command.IsPlain)
    (parsed : parse command.line = .ok found) : found = command := by
  cases command with
  | ping =>
    cases (show parse ping.line = .ok ping from rfl).symm.trans parsed
    rfl
  | kill =>
    cases (show parse kill.line = .ok kill from rfl).symm.trans parsed
    rfl
  | establish organization =>
    rw [parse_line_establish plain] at parsed
    split at parsed
    · cases parsed
    · obtain ⟨_, -, same⟩ := map_eq_ok parsed
      exact same.symm
  | connect target =>
    rw [parse_line_connect] at parsed
    obtain ⟨other, reached, rfl⟩ := map_eq_ok parsed
    rw [eq_of_parseTarget plain reached]

theorem readTimeout_of_spelled {target : Target} (spelled : target.IsSpelled) :
    readTimeout (target.timeout.map fun span => toString span.milliseconds) =
      .ok target.timeout := by
  cases given : target.timeout with
  | none => rfl
  | some span =>
    obtain ⟨whole, bound⟩ := spelled.timeout span given
    exact parseTimeout_of_whole whole bound

theorem parseTarget_of_spelled {target : Target} (spelled : target.IsSpelled) :
    parseTarget (target.organization.elim [] words ++
      (words target.address ++ timeoutWords target.timeout)) = .ok target := by
  have organization : target.organization.elim [] words = target.organization.toList := by
    cases given : target.organization with
    | none => rfl
    | some slug =>
      have checked := spelled.organization slug given
      rw [Option.elim_some, words_of_solid (Slug.solid_of_check checked),
        Slug.nonempty_of_check checked]
      rfl
  -- An address with a colon is a word.
  have address : words target.address = [target.address] := by
    have colon := hasColon_iff.1 spelled.port
    rw [words_of_solid spelled.address, if_neg]
    intro empty
    simp [String.isEmpty_iff.1 empty] at colon
  refine parseTarget_eq_ok_iff.2 ⟨spelled.organization, spelled.port, _, ?_,
    readTimeout_of_spelled spelled⟩
  rw [organization, address]
  cases target.timeout <;> rfl

-- A spelled command is read from its line.
theorem parse_line_of_spelled {command : Command} (spelled : command.IsSpelled) :
    parse command.line = .ok command := by
  cases command with
  | ping => rfl
  | kill => rfl
  | establish organization =>
    have checked : Slug.check organization = .ok () := spelled
    rw [parse_line_establish (Slug.solid_of_check checked), Slug.nonempty_of_check checked, checked]
    rfl
  | connect target =>
    rw [parse_line_connect, parseTarget_of_spelled spelled]
    rfl

theorem lineFeed_not_mem_of_solid {text : String} (solid : Text.IsSolid text) :
    '\n' ∉ text.toList := fun found =>
  absurd (solid '\n' found) (by decide)

-- A timeout never breaks the line.
theorem lineFeed_not_mem_connect {target : Target} (solid : Text.IsSolid target.address)
    (names : ∀ slug, target.organization = some slug → Text.IsSolid slug) :
    '\n' ∉ (connect target).line.toList := by
  obtain ⟨organization, address, timeout⟩ := target
  have addressed := lineFeed_not_mem_of_solid solid
  have numbered (n : Nat) := lineFeed_not_mem_of_solid (solid_toString n)
  have named (slug : String) (given : organization = some slug) :=
    lineFeed_not_mem_of_solid (names slug given)
  cases organization <;> cases timeout <;> simp_all [line]

-- A plain command stays on its line.
theorem IsPlain.lineFeed_not_mem {command : Command} (plain : command.IsPlain) :
    '\n' ∉ command.line.toList := by
  cases command with
  | ping => decide
  | kill => decide
  | establish organization =>
    have unended := lineFeed_not_mem_of_solid plain
    simp [line, unended]
  | connect target =>
    exact lineFeed_not_mem_connect plain.address fun slug given => (plain.organization slug given).2.1

/-! ### The first line of what is sent -/

/-- What stands before the first line feed of a text that is followed by one. -/
structure IsFirstLine (first text : List Char) : Prop where
  unended : '\n' ∉ first
  ends : first = text ∨ ∃ rest, text = first ++ '\n' :: rest

theorem exists_isFirstLine (text : List Char) : ∃ first, IsFirstLine first text := by
  by_cases found : '\n' ∈ text
  · obtain ⟨first, rest, ends, unended⟩ := List.eq_append_cons_of_mem found
    exact ⟨first, unended, .inr ⟨rest, ends⟩⟩
  · exact ⟨text, found, .inl rfl⟩

theorem IsFirstLine.eq_of_not_mem {first text : List Char} (line : IsFirstLine first text)
    (unended : '\n' ∉ text) : first = text := by
  rcases line.ends with same | ⟨rest, rfl⟩
  · exact same
  · simp at unended

theorem IsFirstLine.begins {head first text : List Char} (line : IsFirstLine first text)
    (unended : '\n' ∉ head) (begins : head <+: text) : head <+: first := by
  rcases line.ends with rfl | ⟨rest, rfl⟩
  · exact begins
  · have ended : first ++ ['\n'] <+: first ++ '\n' :: rest :=
      (List.prefix_append_right_inj first).2 (List.prefix_append ['\n'] rest)
    -- The head and the first line begin alike, so one of them begins the other.
    rcases List.prefix_or_prefix_of_prefix begins ended with within | beyond
    · rcases List.prefix_concat_iff.1 within with rfl | within
      · simp at unended
      · exact within
    · exact absurd (beyond.subset (by simp)) unended

theorem words_of_prefix {name : String} {first : List Char} (name_word : words name = [name])
    (begins : name.toList ++ [' '] <+: first) :
    ∃ others, words (String.ofList first) = name :: others := by
  obtain ⟨others, rfl⟩ := begins
  refine ⟨words (String.ofList others), ?_⟩
  have joined : String.ofList (name.toList ++ [' '] ++ others) =
      name ++ " " ++ String.ofList others := by
    rw [← String.toList_inj]
    simp
  rw [joined, words_append_space, name_word]
  rfl

-- The name of a command is the first word of its first line.
theorem words_of_isFirstLine {command : Command} {first : List Char}
    (line : IsFirstLine first command.line.toList) :
    ∃ others, words (String.ofList first) = command.name :: others := by
  cases command with
  | ping =>
    rw [line.eq_of_not_mem (by decide)]
    exact ⟨[], rfl⟩
  | kill =>
    rw [line.eq_of_not_mem (by decide)]
    exact ⟨[], rfl⟩
  | establish organization =>
    have unended : '\n' ∉ "establish".toList ++ [' '] := by decide
    have named : words "establish" = ["establish"] := rfl
    have begins : "establish".toList ++ [' '] <+: (establish organization).line.toList :=
      ⟨organization.toList, by simp [Command.line]⟩
    exact words_of_prefix named (line.begins unended begins)
  | connect target =>
    have unended : '\n' ∉ "connect".toList ++ [' '] := by decide
    have named : words "connect" = ["connect"] := rfl
    have begins : "connect".toList ++ [' '] <+: (connect target).line.toList := by
      obtain ⟨organization, address, timeout⟩ := target
      cases organization <;> cases timeout <;> simp [Command.line]
    exact words_of_prefix named (line.begins unended begins)

end Command

end TunnelBroker
