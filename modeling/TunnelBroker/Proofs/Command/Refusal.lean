import Mathlib.Algebra.Order.Group.Nat
import TunnelBroker.Proofs.Command
import TunnelBroker.Proofs.Text.Utf8
import TunnelBroker.Reply

/-!
Lines that carry no command. Main statements: the reply that says why is one line, and at most
19 bytes longer than the refused line, whose words it quotes, unless it is short anyway.
-/

set_option autoImplicit false

namespace TunnelBroker

namespace Text

/-- A text in which no character ends a line. -/
def IsUnbroken (text : String) : Prop :=
  ∀ c ∈ text.toList, Reply.isLineEnd c = false

instance (text : String) : Decidable (IsUnbroken text) :=
  List.decidableBAll (Reply.isLineEnd · = false) text.toList

theorem IsUnbroken.append {first second : String} (before : IsUnbroken first)
    (after : IsUnbroken second) : IsUnbroken (first ++ second) := by
  intro c found
  rw [String.toList_append, List.mem_append] at found
  exact found.elim (before c) (after c)

theorem IsSolid.unbroken {text : String} (solid : IsSolid text) : IsUnbroken text := by
  intro c found
  by_contra ends
  rw [Bool.not_eq_false, Reply.isLineEnd, Bool.or_eq_true, beq_iff_eq, beq_iff_eq] at ends
  rcases ends with rfl | rfl
  · exact absurd (solid _ found) (by decide)
  · exact absurd (solid _ found) (by decide)

theorem IsUnbroken.intercalate {words : List String} (unbroken : ∀ word ∈ words, IsUnbroken word) :
    IsUnbroken (" ".intercalate words) := by
  induction words with
  | nil => exact fun _ found => nomatch found
  | cons word words ih =>
    obtain ⟨first, others⟩ := List.forall_mem_cons.1 unbroken
    cases words with
    | nil => rwa [String.intercalate_singleton]
    | cons next words =>
      rw [String.intercalate_cons_cons]
      exact (first.append (by decide)).append (ih others)

/-! ### The size of the words of a line -/

/-- The bytes of words with a space behind each. -/
def spacedSize : List (List Char) → Nat
  | [] => 0
  | word :: words => (encodeChars word).length + 1 + spacedSize words

theorem spacedSize_cons (word : List Char) (words : List (List Char)) :
    spacedSize (word :: words) = (encodeChars word).length + 1 + spacedSize words := rfl

theorem spacedSize_filter_le (keep : List Char → Bool) (words : List (List Char)) :
    spacedSize (words.filter keep) ≤ spacedSize words := by
  induction words with
  | nil => rfl
  | cons word words ih =>
    rw [List.filter_cons]
    split
    · exact Nat.add_le_add_left ih _
    · exact ih.trans (Nat.le_add_left _ _)

-- A blank has a byte of its own.
theorem spacedSize_splitOnP (text : List Char) :
    spacedSize (text.splitOnP isBlank) ≤ (encodeChars text).length + 1 := by
  induction text with
  | nil => decide
  | cons c text ih =>
    have width : 0 < (String.utf8EncodeChar c).length := by
      rw [String.length_utf8EncodeChar]
      exact c.utf8Size_pos
    rw [List.splitOnP_cons_eq_if_modifyHead, encodeChars_cons, List.length_append]
    split
    · have nothing : (encodeChars []).length = 0 := rfl
      rw [spacedSize_cons]
      omega
    · obtain ⟨head, others, pieces⟩ :=
        List.exists_cons_of_ne_nil (List.splitOnP_ne_nil isBlank text)
      rw [pieces, spacedSize_cons] at ih
      rw [pieces, List.modifyHead_cons, spacedSize_cons, encodeChars_cons, List.length_append]
      omega

theorem spacedSize_words (text : List Char) :
    spacedSize (words text) ≤ (encodeChars text).length + 1 :=
  (spacedSize_filter_le _ _).trans (spacedSize_splitOnP text)

theorem length_intercalate (words : List (List Char)) :
    (encodeChars ([' '].intercalate words)).length = spacedSize words - 1 := by
  induction words with
  | nil => rfl
  | cons word words ih =>
    cases words with
    | nil => simp [spacedSize]
    | cons next words =>
      have space : (encodeChars [' ']).length = 1 := by decide
      have more := spacedSize_cons next words
      rw [List.intercalate_cons_cons, encodeChars_append, encodeChars_append, List.length_append,
        List.length_append, ih, spacedSize_cons word]
      omega

end Text

namespace Command

def spacedSize (words : List String) : Nat :=
  Text.spacedSize (words.map String.toList)

theorem spacedSize_cons (word : String) (words : List String) :
    spacedSize (word :: words) = (Text.encode word).length + 1 + spacedSize words :=
  Text.spacedSize_cons word.toList (words.map String.toList)

theorem le_spacedSize {word : String} {words : List String} (member : word ∈ words) :
    (Text.encode word).length + 1 ≤ spacedSize words := by
  induction words with
  | nil => cases member
  | cons first words ih =>
    rw [spacedSize_cons]
    rcases List.mem_cons.1 member with rfl | later
    · omega
    · have := ih later
      omega

theorem spacedSize_words (line : String) :
    spacedSize (words line) ≤ (Text.encode line).length + 1 := by
  have same : (words line).map String.toList = Text.words line.toList := by
    simp [words, Function.comp_def]
  rw [spacedSize, same]
  exact Text.spacedSize_words line.toList

theorem length_intercalate (words : List String) :
    (Text.encode (" ".intercalate words)).length = spacedSize words - 1 := by
  rw [Text.encode, String.toList_intercalate]
  exact Text.length_intercalate _

/-! ### Why words are refused -/

/-- Why words carry no command, each reason with the words that it is about. -/
inductive Refuses (words : List String) : Failure → Prop where
  | slug {word : String} {fault : Slug.Fault} (member : word ∈ words)
    (found : Slug.fault? word = some fault) : Refuses words (.validation fault.message)
  | takesNoArguments {word : String} (bare : word = "ping" ∨ word = "kill") :
    Refuses words (Fault.takesNoArguments word).failure
  | establishUsage : Refuses words Fault.establishUsage.failure
  | connectUsage : Refuses words Fault.connectUsage.failure
  | badTimeout {first word : String} {others : List String}
    (shape : words = "connect" :: first :: others) (member : word ∈ others) :
    Refuses words (Fault.badTimeout word).failure
  | missingPort {first word : String} {others : List String}
    (shape : words = "connect" :: first :: others) (member : word ∈ others) :
    Refuses words (Fault.missingPort word).failure
  | unknown : Refuses words (Fault.unknown words).failure

section

variable {words : List String} {failure : Failure}

theorem refuses_of_check {word : String} (member : word ∈ words)
    (failed : Slug.check word = .error failure) : Refuses words failure := by
  unfold Slug.check at failed
  split at failed
  · next fault found =>
    cases failed
    exact .slug member found
  · cases failed

theorem failure_of_parseTimeout {word : String} (failed : parseTimeout word = .error failure) :
    failure = (Fault.badTimeout word).failure := by
  unfold parseTimeout at failed
  split at failed
  · cases failed
  · exact (Except.error.inj failed).symm

-- An address is refused for its timeout, or for what stands there.
theorem refuses_of_parseAddress {first : String} {others arguments : List String}
    (shape : words = "connect" :: first :: others)
    (tail : ∀ address word, arguments = [address, word] → word ∈ others)
    (failed : parseAddress arguments = .error failure) : Refuses words failure := by
  unfold parseAddress at failed
  split at failed
  · cases failed
  · next address word =>
    rcases bind_eq_error (show (parseTimeout word).bind _ = _ from failed) with
      untimed | ⟨timeout, _, done⟩
    · cases failure_of_parseTimeout untimed
      exact .badTimeout shape (tail address word rfl)
    · cases done
  · cases failed
    exact .connectUsage

theorem refuses_of_parseTarget {arguments : List String}
    (failed : parseTarget arguments = .error failure) :
    Refuses ("connect" :: arguments) failure := by
  cases arguments with
  | nil =>
    cases failed
    exact .connectUsage
  | cons first others =>
    cases colon : hasColon first with
    | true =>
      rw [parseTarget_of_colon colon] at failed
      rcases bind_eq_error failed with unread | ⟨⟨address, timeout⟩, addressed, unreached⟩
      · refine refuses_of_parseAddress rfl ?_ unread
        rintro address word ⟨⟩
        exact List.mem_singleton_self word
      · -- The address is the first argument, which has a colon.
        obtain ⟨word, same, -⟩ := parseAddress_eq_ok_iff.1 addressed
        cases same
        simp only [reach] at unreached
        rw [if_pos colon] at unreached
        cases unreached
    | false =>
      rw [parseTarget_of_slug colon] at failed
      rcases bind_eq_error failed with bad | ⟨_, _, rest⟩
      · exact refuses_of_check (List.mem_cons_of_mem _ List.mem_cons_self) bad
      · rcases bind_eq_error rest with unread | ⟨⟨address, timeout⟩, addressed, unreached⟩
        · refine refuses_of_parseAddress rfl ?_ unread
          rintro address word rfl
          exact List.mem_cons_of_mem _ (List.mem_singleton_self word)
        · simp only [reach] at unreached
          split at unreached
          · cases unreached
          · cases unreached
            obtain ⟨word, rfl, -⟩ := parseAddress_eq_ok_iff.1 addressed
            exact .missingPort rfl List.mem_cons_self

theorem refuses_of_ofWords (failed : ofWords words = .error failure) : Refuses words failure := by
  unfold ofWords at failed
  split at failed
  · cases failed
  · cases failed
  · cases failed
    exact .takesNoArguments (.inl rfl)
  · cases failed
    exact .takesNoArguments (.inr rfl)
  · next organization =>
    rcases bind_eq_error failed with bad | ⟨_, _, done⟩
    · exact refuses_of_check (List.mem_cons_of_mem _ List.mem_cons_self) bad
    · cases done
  · cases failed
    exact .establishUsage
  · exact refuses_of_parseTarget (map_eq_error failed)
  · cases failed
    exact .unknown

/-! ### What the message has of the words -/

theorem badCharacter_of_fault? {word text : String}
    (found : Slug.fault? word = some (.badCharacter text)) :
    text = word ∧ (Text.encode word).length ≤ 64 := by
  unfold Slug.fault? at found
  split at found
  · cases found
  · split at found
    · cases found
    · next short =>
      rw [Text.length_encode]
      split at found
      · cases found
        exact ⟨rfl, Nat.not_lt.1 short⟩
      · split at found
        · cases found
        · cases found

namespace Refuses

theorem unbroken (solid : ∀ word ∈ words, Text.IsSolid word) (refuses : Refuses words failure) :
    Text.IsUnbroken failure.message := by
  have whole {word : String} (member : word ∈ words) : Text.IsUnbroken word :=
    (solid word member).unbroken
  have later {first word : String} {others : List String}
      (shape : words = "connect" :: first :: others) (member : word ∈ others) :
      Text.IsUnbroken word :=
    whole (shape ▸ List.mem_cons_of_mem _ (List.mem_cons_of_mem _ member))
  cases refuses with
  | @slug word fault member found =>
    cases fault with
    | badCharacter text =>
      obtain ⟨rfl, -⟩ := badCharacter_of_fault? found
      exact .append (by decide) (((show Text.IsUnbroken _ by decide).append (whole member)).append
        (by decide))
    | empty | tooLong | badStart => decide
  | takesNoArguments bare => rcases bare with rfl | rfl <;> decide
  | establishUsage => decide
  | connectUsage => decide
  | badTimeout shape member => exact .append (by decide) (later shape member)
  | missingPort shape member => exact .append (by decide) (later shape member)
  | unknown =>
    exact .append (.append (by decide) (.intercalate fun word => whole)) (by decide)

theorem length_le (refuses : Refuses words failure) :
    (Text.encode failure.message).length ≤ max 169 (spacedSize words + 14) := by
  have later {first word : String} {others : List String}
      (shape : words = "connect" :: first :: others) (member : word ∈ others) :
      (Text.encode word).length + 10 ≤ spacedSize words := by
    have size := le_spacedSize member
    rw [shape, spacedSize_cons, spacedSize_cons, show (Text.encode "connect").length = 7 by decide]
    omega
  cases refuses with
  | @slug word fault member found =>
    refine le_max_of_le_left ?_
    cases fault with
    | badCharacter text =>
      obtain ⟨rfl, short⟩ := badCharacter_of_fault? found
      calc (Text.encode ("Validation error: " ++ ("Invalid organization slug '" ++ text ++
            "': only lowercase alphanumeric, dash, and underscore allowed"))).length
        _ = 18 + (27 + (Text.encode text).length + 60) := by
          rw [Text.length_encode_of_lead 18 (by decide), Text.length_encode_of_tail 60 (by decide),
            Text.length_encode_of_lead 27 (by decide)]
        _ ≤ 169 := by omega
    | empty | tooLong | badStart => decide
  | takesNoArguments bare => exact le_max_of_le_left (by rcases bare with rfl | rfl <;> decide)
  | establishUsage => exact le_max_of_le_left (by decide)
  | connectUsage => exact le_max_of_le_left (by decide)
  | @badTimeout _ word _ shape member =>
    have size := later shape member
    calc (Text.encode ("invalid timeout: " ++ word)).length
      _ = 17 + (Text.encode word).length := Text.length_encode_of_lead _ (by decide) word
      _ ≤ max 169 (spacedSize words + 14) := by omega
  | @missingPort _ word _ shape member =>
    have size := later shape member
    calc (Text.encode ("missing port in address " ++ word)).length
      _ = 24 + (Text.encode word).length := Text.length_encode_of_lead _ (by decide) word
      _ ≤ max 169 (spacedSize words + 14) := by omega
  | unknown =>
    calc (Text.encode ("bad command: [" ++ " ".intercalate words ++ "]")).length
      _ = 14 + (spacedSize words - 1) + 1 := by
        rw [Text.length_encode_of_tail 1 (by decide), Text.length_encode_of_lead 14 (by decide),
          length_intercalate]
      _ ≤ max 169 (spacedSize words + 14) := by omega

end Refuses

theorem refuses_of_parse {line : String} (refused : parse line = .error failure) :
    Refuses (Command.words line) failure :=
  refuses_of_ofWords refused

theorem unbroken_of_parse {line : String} (refused : parse line = .error failure) :
    Text.IsUnbroken failure.message :=
  (refuses_of_parse refused).unbroken fun _ => solid_of_mem_words

-- Fifteen bytes more than the line has: the words of a line without a known first word are
-- quoted in full.
theorem length_le_of_parse {line : String} (refused : parse line = .error failure) :
    (Text.encode failure.message).length ≤ max 169 ((Text.encode line).length + 15) := by
  have size := spacedSize_words line
  have bound := (refuses_of_parse refused).length_le
  omega

end

end Command

end TunnelBroker
