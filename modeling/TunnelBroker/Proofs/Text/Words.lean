import TunnelBroker.Text.Blank

/-! Words of a text. What is joined with a space has the words of both parts. -/

set_option autoImplicit false

namespace TunnelBroker.Text

/-- A text without white space. -/
def IsSolid (text : String) : Prop :=
  ∀ c ∈ text.toList, isBlank c = false

instance (text : String) : Decidable (IsSolid text) :=
  List.decidableBAll (isBlank · = false) text.toList

@[simp]
theorem words_append {blank : Char} (isBlank : isBlank blank = true) (first second : List Char) :
    words (first ++ blank :: second) = words first ++ words second := by
  simp only [words, List.splitOnP_append_cons first second isBlank, List.filter_append]

theorem words_of_solid {text : List Char} (solid : ∀ c ∈ text, isBlank c = false) :
    words text = if text.isEmpty then [] else [text] := by
  rw [words, List.splitOnP_eq_singleton solid]
  cases text <;> rfl

theorem solid_of_mem_splitOnP {piece text : List Char} (found : piece ∈ text.splitOnP isBlank) :
    ∀ c ∈ piece, isBlank c = false := by
  induction text generalizing piece with
  | nil =>
    rw [List.splitOnP_nil, List.mem_singleton] at found
    simp [found]
  | cons c text ih =>
    rw [List.splitOnP_cons_eq_if_modifyHead] at found
    cases blank : isBlank c with
    | true =>
      rw [blank, if_pos rfl] at found
      rcases List.mem_cons.1 found with rfl | later
      · exact fun _ absurd => nomatch absurd
      · exact ih later
    | false =>
      obtain ⟨head, others, pieces⟩ :=
        List.exists_cons_of_ne_nil (List.splitOnP_ne_nil isBlank text)
      rw [blank, pieces] at found
      rw [pieces] at ih
      rcases List.mem_cons.1 found with rfl | later
      · exact List.forall_mem_cons.2 ⟨blank, ih List.mem_cons_self⟩
      · exact ih (List.mem_cons_of_mem _ later)

-- No character is lost but those that separate.
theorem exists_mem_splitOnP {c : Char} {text : List Char} (found : c ∈ text)
    (solid : isBlank c = false) : ∃ piece ∈ text.splitOnP isBlank, c ∈ piece := by
  induction text with
  | nil => cases found
  | cons first text ih =>
    rw [List.splitOnP_cons_eq_if_modifyHead]
    obtain ⟨head, others, pieces⟩ :=
      List.exists_cons_of_ne_nil (List.splitOnP_ne_nil isBlank text)
    cases blank : isBlank first with
    | true =>
      rcases List.mem_cons.1 found with rfl | later
      · cases solid.symm.trans blank
      · obtain ⟨piece, member, within⟩ := ih later
        exact ⟨piece, List.mem_cons_of_mem _ member, within⟩
    | false =>
      rw [pieces] at ih ⊢
      rcases List.mem_cons.1 found with rfl | later
      · exact ⟨c :: head, List.mem_cons_self, List.mem_cons_self⟩
      · obtain ⟨piece, member, within⟩ := ih later
        rcases List.mem_cons.1 member with rfl | other
        · exact ⟨first :: piece, List.mem_cons_self, List.mem_cons_of_mem _ within⟩
        · exact ⟨piece, List.mem_cons_of_mem _ other, within⟩

theorem exists_mem_words {c : Char} {text : List Char} (found : c ∈ text)
    (solid : isBlank c = false) : ∃ word ∈ words text, c ∈ word := by
  obtain ⟨piece, member, within⟩ := exists_mem_splitOnP found solid
  have nonempty : piece ≠ [] := List.ne_nil_of_mem within
  exact ⟨piece, List.mem_filter.2 ⟨member, by simpa using nonempty⟩, within⟩

-- Words are solid and not empty.
theorem solid_of_mem_words {word text : List Char} (found : word ∈ words text) :
    word ≠ [] ∧ ∀ c ∈ word, isBlank c = false := by
  obtain ⟨found, nonempty⟩ := List.mem_filter.1 found
  exact ⟨by simpa using nonempty, solid_of_mem_splitOnP found⟩

theorem dropWhile_of_solid {text : List Char} (solid : ∀ c ∈ text, isBlank c = false) :
    text.dropWhile isBlank = text := by
  cases text with
  | nil => rfl
  | cons c text => simp [solid c List.mem_cons_self]

theorem trim_of_solid {text : List Char} (solid : ∀ c ∈ text, isBlank c = false) :
    trim text = text := by
  have reversed : ∀ c ∈ text.reverse, isBlank c = false := fun c found =>
    solid c (List.mem_reverse.1 found)
  rw [trim, dropWhile_of_solid solid, dropTailWhile, dropWhile_of_solid reversed,
    List.reverse_reverse]

section

variable {α : Type} {p : α → Bool} {first second : List α}

theorem dropTailWhile_append (stays : dropTailWhile p first = first) :
    dropTailWhile p (first ++ second) = first ++ dropTailWhile p second := by
  have stays : first.reverse.dropWhile p = first.reverse := by
    rw [← List.reverse_reverse (first.reverse.dropWhile p)]
    exact congrArg List.reverse stays
  rw [dropTailWhile, dropTailWhile, List.reverse_append, List.dropWhile_append, stays]
  split
  · next nothing =>
    rw [List.isEmpty_iff.1 nothing, List.reverse_reverse, List.reverse_nil, List.append_nil]
  · rw [List.reverse_append, List.reverse_reverse]

end

end TunnelBroker.Text
