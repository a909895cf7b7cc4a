import TunnelBroker.Failure
import TunnelBroker.Proofs.Reply

/-!
Failures on the wire. The text of a reply is all that a client learns of a failure. Main
statement: `Failure.told_exactly`.
-/

set_option autoImplicit false

namespace TunnelBroker.Failure

/--
The failures that their own message tells apart from every other failure. A text that
stands before another one must not contain the colon and blank that end it.
-/
def IsTold : Failure → Prop
  | organizationNotFound _ | noTunnel _ | directory _ => True
  | tunnelEstablish organization _ => ¬ ": ".toList <:+: organization.toList
  | resolve host _ => ¬ ": ".toList <:+: host.toList
  | dial detail => ∀ rest, detail = "can't resolve " ++ rest → ¬ ": ".toList <:+: rest.toList
  | bind _ | protocol _ | agent _ | config _ | io _ | serialization _ | permission _
  | timeout _ | validation _ => False

theorem message_noTunnel (organization : String) :
    (noTunnel organization).message = "no tunnel for " ++ (organization ++ " established") :=
  String.append_assoc

theorem message_tunnelEstablish (organization reason : String) :
    (tunnelEstablish organization reason).message =
      "can't establish tunnel for " ++ (organization ++ ": " ++ reason) := by
  rw [String.append_assoc, ← String.append_assoc, ← String.append_assoc]
  rfl

-- A failed look-up is a failed connection.
theorem message_resolve (host reason : String) :
    (resolve host reason).message =
      "connection failed: " ++ ("can't resolve " ++ (host ++ ": " ++ reason)) := by
  have lead : "connection failed: can't resolve " = "connection failed: " ++ "can't resolve " :=
    rfl
  rw [← String.append_assoc, ← lead, String.append_assoc, ← String.append_assoc,
    ← String.append_assoc]
  rfl

/-! ### What stands before and after a text -/

variable {lead tail : String} {text rest before after : List Char}

theorem after?_eq_some_iff : after? lead text = some rest ↔ text = lead.toList ++ rest := by
  rw [after?, List.isPrefixOf?_eq_some_iff_append_eq, eq_comm]

theorem before?_eq_some_iff : before? tail text = some rest ↔ text = rest ++ tail.toList := by
  rw [before?, List.isSuffixOf?_eq_some_iff_append_eq, eq_comm]

theorem after?_append (lead rest : String) :
    after? lead (lead ++ rest).toList = some rest.toList :=
  after?_eq_some_iff.2 String.toList_append

-- What was taken apart is put together again.
theorem append_of_after? (found : after? lead text = some rest) :
    lead ++ String.ofList rest = String.ofList text := by
  rw [after?_eq_some_iff.1 found, String.ofList_append, String.ofList_toList]

theorem append_of_before? (found : before? tail text = some rest) :
    String.ofList rest ++ tail = String.ofList text := by
  rw [before?_eq_some_iff.1 found, String.ofList_append, String.ofList_toList]

theorem append_of_cut? {separator : String}
    (cut : Text.cut? separator.toList text = some (before, after)) :
    String.ofList before ++ separator ++ String.ofList after = String.ofList text := by
  rw [Text.eq_of_cut? cut, String.ofList_append, String.ofList_append, String.ofList_toList]

-- The first colon with a blank after it is the one that the writer put there.
theorem cut?_colon_iff :
    Text.cut? ": ".toList (before ++ ": ".toList ++ after) = some (before, after) ↔
      ¬ ": ".toList <:+: before :=
  Text.cut?_pair_iff (by decide)

theorem not_infix_of_cut?_colon (cut : Text.cut? ": ".toList text = some (before, after)) :
    ¬ ": ".toList <:+: before := by
  rw [Text.eq_of_cut? cut] at cut
  exact cut?_colon_iff.1 cut

/-! ### Reading a message -/

theorem ofConnectionText_told (text : List Char) :
    (ofConnectionText text).IsTold ∧
      (ofConnectionText text).message = "connection failed: " ++ String.ofList text := by
  unfold ofConnectionText
  split
  · next host reason found =>
    obtain ⟨rest, led, cut⟩ := Option.bind_eq_some_iff.1 found
    constructor
    · have told := not_infix_of_cut?_colon cut
      rwa [← String.toList_ofList (l := host)] at told
    · rw [message_resolve, append_of_cut? cut, append_of_after? led]
  · next missing =>
    constructor
    · intro rest led separated
      have begins : after? "can't resolve " text = some rest.toList := by
        rw [after?_eq_some_iff, ← String.toList_append, ← led, String.toList_ofList]
      rw [begins, Option.bind_some] at missing
      exact Text.cut?_eq_none_iff.1 missing separated
    · rfl

-- A message is read as a failure that writes it again, or as one of the agent.
theorem ofMessage_cases (text : String) :
    (ofMessage text).IsTold ∧ (ofMessage text).message = text ∨ ofMessage text = agent text := by
  generalize read : ofMessage text = failure
  simp only [ofMessage] at read
  split at read
  · next organization led =>
    subst read
    refine .inl ⟨trivial, ?_⟩
    exact (append_of_after? led).trans String.ofList_toList
  split at read
  · next organization found =>
    obtain ⟨rest, led, ended⟩ := Option.bind_eq_some_iff.1 found
    subst read
    refine .inl ⟨trivial, ?_⟩
    rw [message_noTunnel, append_of_before? ended]
    exact (append_of_after? led).trans String.ofList_toList
  split at read
  · next organization reason found =>
    obtain ⟨rest, led, cut⟩ := Option.bind_eq_some_iff.1 found
    subst read
    refine .inl ⟨?_, ?_⟩
    · have told := not_infix_of_cut?_colon cut
      rwa [← String.toList_ofList (l := organization)] at told
    · rw [message_tunnelEstablish, append_of_cut? cut]
      exact (append_of_after? led).trans String.ofList_toList
  split at read
  · next rest led =>
    subst read
    obtain ⟨told, same⟩ := ofConnectionText_told rest
    refine .inl ⟨told, ?_⟩
    exact same.trans ((append_of_after? led).trans String.ofList_toList)
  split at read
  · next detail led =>
    subst read
    refine .inl ⟨trivial, ?_⟩
    exact (append_of_after? led).trans String.ofList_toList
  · exact .inr read.symm

/-! ### Reading what was written -/

theorem cut?_colon_append {before : String} (alone : ¬ ": ".toList <:+: before.toList)
    (after : String) :
    Text.cut? ": ".toList (before ++ ": " ++ after).toList =
      some (before.toList, after.toList) := by
  rw [String.toList_append, String.toList_append]
  exact cut?_colon_iff.2 alone

theorem ofConnectionText_of_resolve {host reason : String} (told : (resolve host reason).IsTold) :
    ofConnectionText ("can't resolve " ++ (host ++ ": " ++ reason)).toList =
      resolve host reason := by
  rw [ofConnectionText, after?_append, Option.bind_some, cut?_colon_append told]
  simp only [String.ofList_toList]

theorem ofConnectionText_of_dial {detail : String} (told : (dial detail).IsTold) :
    ofConnectionText detail.toList = dial detail := by
  have missing : (after? "can't resolve " detail.toList).bind (Text.cut? ": ".toList) = none := by
    rw [Option.bind_eq_none_iff]
    intro rest led
    apply Text.cut?_eq_none_iff.2
    rw [← String.toList_ofList (l := rest)]
    exact told _ ((append_of_after? led).trans String.ofList_toList).symm
  rw [ofConnectionText, missing]
  exact congrArg dial String.ofList_toList

def leads : List String :=
  ["no such organization: ", "no tunnel for ", "can't establish tunnel for ",
    "connection failed: ", "directory error: "]

-- No lead begins another one, so a message has one lead at most.
theorem after?_other {lead other : String} (isLead : lead ∈ leads) (isOther : other ∈ leads)
    (differ : lead ≠ other) (rest : String) : after? lead (other ++ rest).toList = none := by
  have apart : ∀ lead ∈ leads, ∀ other ∈ leads, lead.toList <+: other.toList → lead = other := by
    decide
  rw [after?, Text.isPrefixOf?_eq_none_iff, String.toList_append]
  intro begins
  rcases List.prefix_or_prefix_of_prefix begins (List.prefix_append ..) with first | second
  · exact differ (apart lead isLead other isOther first)
  · exact differ (apart other isOther lead isLead second).symm

theorem ofMessage_of_organizationNotFound (organization : String) :
    ofMessage ("no such organization: " ++ organization) = organizationNotFound organization := by
  simp only [ofMessage, after?_append, String.ofList_toList]

theorem ofMessage_of_noTunnel (organization : String) :
    ofMessage ("no tunnel for " ++ (organization ++ " established")) = noTunnel organization := by
  have ended : before? " established" (organization ++ " established").toList =
      some organization.toList :=
    before?_eq_some_iff.2 String.toList_append
  simp (disch := decide) only [ofMessage, after?_other, after?_append, Option.bind_some, ended,
    String.ofList_toList]

theorem ofMessage_of_tunnelEstablish {organization reason : String}
    (told : (tunnelEstablish organization reason).IsTold) :
    ofMessage ("can't establish tunnel for " ++ (organization ++ ": " ++ reason)) =
      tunnelEstablish organization reason := by
  simp (disch := decide) only [ofMessage, after?_other, after?_append, Option.bind_none,
    Option.bind_some]
  rw [cut?_colon_append told]
  simp only [String.ofList_toList]

theorem ofMessage_of_connection (rest : String) :
    ofMessage ("connection failed: " ++ rest) = ofConnectionText rest.toList := by
  simp (disch := decide) only [ofMessage, after?_other, after?_append, Option.bind_none]

theorem ofMessage_of_directory (detail : String) :
    ofMessage ("directory error: " ++ detail) = directory detail := by
  simp (disch := decide) only [ofMessage, after?_other, after?_append, Option.bind_none,
    String.ofList_toList]

theorem ofMessage_of_told {failure : Failure} (told : failure.IsTold) :
    ofMessage failure.message = failure := by
  cases failure with
  | organizationNotFound organization => exact ofMessage_of_organizationNotFound organization
  | noTunnel organization =>
    rw [message_noTunnel]
    exact ofMessage_of_noTunnel organization
  | tunnelEstablish organization reason =>
    rw [message_tunnelEstablish]
    exact ofMessage_of_tunnelEstablish told
  | resolve host reason =>
    rw [message_resolve, ofMessage_of_connection]
    exact ofConnectionText_of_resolve told
  | dial detail => exact (ofMessage_of_connection detail).trans (ofConnectionText_of_dial told)
  | directory detail => exact ofMessage_of_directory detail
  | bind | protocol | agent | config | io | serialization | permission | timeout | validation =>
    exact told.elim

-- An agent failure says more than the message that it was read from.
theorem ne_agent_message (failure : Failure) : failure ≠ agent failure.message := by
  intro same
  have longer : failure.message = "agent error: " ++ failure.message := congrArg message same
  have lengths := congrArg String.length longer
  rw [String.length_append] at lengths
  have : 0 < "agent error: ".length := by decide
  omega

theorem ofMessage_message_iff (failure : Failure) :
    ofMessage failure.message = failure ↔ failure.IsTold := by
  refine ⟨fun same => ?_, ofMessage_of_told⟩
  rcases ofMessage_cases failure.message with ⟨told, _⟩ | other
  · exact same ▸ told
  · exact (failure.ne_agent_message (same.symm.trans other)).elim

/--
A message gives back its failure exactly for the failures that are told apart. Whatever is
read from a message writes the message again, or it is the agent failure of that message.
And a failure's line keeps the message exactly if no line end closes the message.
-/
theorem told_exactly :
    (∀ failure : Failure, ofMessage failure.message = failure ↔ failure.IsTold) ∧
    (∀ text : String, (ofMessage text).message = text ∨
      ofMessage text = agent text ∧ (ofMessage text).message = "agent error: " ++ text) ∧
    (∀ failure : Failure,
      Reply.parse ((Reply.ofFailure failure).line ++ "\n") = .ok (.err failure.message) ↔
        ∀ last ∈ failure.message.toList.getLast?, last ≠ '\r' ∧ last ≠ '\n') := by
  refine ⟨ofMessage_message_iff, fun text => ?_, fun failure => ?_⟩
  · rcases ofMessage_cases text with ⟨_, same⟩ | other
    · exact .inl same
    · exact .inr ⟨other, congrArg message other⟩
  · rw [Reply.ofFailure, Reply.parse_append_lineFeed, Reply.parse_err, ← Reply.dropTailWhile_isLineEnd_iff,
      Except.ok.injEq, Reply.err.injEq, ← String.toList_inj, String.toList_ofList]

end TunnelBroker.Failure
