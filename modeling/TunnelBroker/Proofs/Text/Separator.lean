import TunnelBroker.Text.Separator
import Mathlib.Data.List.Infix

/-!
Cutting a text at a separator. Main statements: `cut?_eq_some_iff` and `cutLast?_eq_some_iff`, what
the sides are; `cut?_append_iff`, both sides come back exactly if the separator does not begin
earlier, also not across the seam.
-/

set_option autoImplicit false

namespace TunnelBroker.Text

variable {separator text before after : List Char}

theorem isPrefixOf?_eq_none_iff : separator.isPrefixOf? text = none ↔ ¬ separator <+: text := by
  rw [← Option.not_isSome_iff_eq_none, not_iff_not, Option.isSome_iff_exists]
  constructor
  · rintro ⟨rest, found⟩
    exact ⟨rest, List.isPrefixOf?_eq_some_iff_append_eq.1 found⟩
  · rintro ⟨rest, whole⟩
    exact ⟨rest, List.isPrefixOf?_eq_some_iff_append_eq.2 whole⟩

theorem cut?_of_begins {c : Char} (begins : separator.isPrefixOf? (c :: text) = some after) :
    cut? separator (c :: text) = some ([], after) := by
  rw [cut?, begins]

theorem cut?_of_not_begins {c : Char} (later : ¬ separator <+: c :: text) :
    cut? separator (c :: text) =
      (cut? separator text).map fun sides => (c :: sides.1, sides.2) := by
  rw [cut?, isPrefixOf?_eq_none_iff.2 later]

theorem cut?_eq_cons_iff {c : Char} :
    cut? separator (c :: text) = some (c :: before, after) ↔
      ¬ separator <+: c :: text ∧ cut? separator text = some (before, after) := by
  cases begins : separator.isPrefixOf? (c :: text) with
  | some rest =>
    have isPrefix : separator <+: c :: text :=
      ⟨rest, List.isPrefixOf?_eq_some_iff_append_eq.1 begins⟩
    simp [cut?_of_begins begins, isPrefix]
  | none =>
    have later := isPrefixOf?_eq_none_iff.1 begins
    simp [cut?_of_not_begins later, later, Prod.ext_iff]

theorem eq_of_cut? (cut : cut? separator text = some (before, after)) :
    text = before ++ separator ++ after := by
  induction text generalizing before with
  | nil =>
    unfold cut? at cut
    split at cut
    · next empty =>
      cases cut
      simpa using empty
    · cases cut
  | cons c text ih =>
    cases begins : separator.isPrefixOf? (c :: text) with
    | some rest =>
      cases (cut?_of_begins begins).symm.trans cut
      exact (List.isPrefixOf?_eq_some_iff_append_eq.1 begins).symm
    | none =>
      rw [cut?_of_not_begins (isPrefixOf?_eq_none_iff.1 begins)] at cut
      obtain ⟨⟨first, rest⟩, later, same⟩ := Option.map_eq_some_iff.1 cut
      cases same
      rw [ih later]
      rfl

theorem cut?_eq_none_iff : cut? separator text = none ↔ ¬ separator <:+: text := by
  induction text with
  | nil => simp [cut?]
  | cons c text ih =>
    cases begins : separator.isPrefixOf? (c :: text) with
    | some rest =>
      have isPrefix : separator <+: c :: text :=
        ⟨rest, List.isPrefixOf?_eq_some_iff_append_eq.1 begins⟩
      simp [cut?_of_begins begins, isPrefix.isInfix]
    | none =>
      have later := isPrefixOf?_eq_none_iff.1 begins
      rw [cut?_of_not_begins later, Option.map_eq_none_iff, ih, List.infix_cons_iff, not_or]
      exact (and_iff_right later).symm

/-- The separator stands between both sides, and nowhere earlier in the text. -/
structure IsFirstCut (separator text before after : List Char) : Prop where
  whole : text = before ++ separator ++ after
  first : ∀ earlier rest, text = earlier ++ separator ++ rest → before.length ≤ earlier.length

theorem length_le_of_cut? (cut : cut? separator text = some (before, after))
    {earlier rest : List Char} (whole : text = earlier ++ separator ++ rest) :
    before.length ≤ earlier.length := by
  induction text generalizing before earlier with
  | nil =>
    have same := eq_of_cut? cut
    simp_all
  | cons c text ih =>
    cases begins : separator.isPrefixOf? (c :: text) with
    | some rest =>
      cases (cut?_of_begins begins).symm.trans cut
      exact Nat.zero_le _
    | none =>
      have later := isPrefixOf?_eq_none_iff.1 begins
      rw [cut?_of_not_begins later] at cut
      obtain ⟨⟨first, _⟩, found, same⟩ := Option.map_eq_some_iff.1 cut
      cases same
      cases earlier with
      | nil => exact (later ⟨rest, whole.symm⟩).elim
      | cons _ earlier => exact Nat.succ_le_succ (ih found (List.cons.inj whole).2)

theorem cut?_eq_some_iff :
    cut? separator text = some (before, after) ↔ IsFirstCut separator text before after := by
  constructor
  · intro cut
    exact ⟨eq_of_cut? cut, fun _ _ whole => length_le_of_cut? cut whole⟩
  · rintro ⟨whole, first⟩
    cases cut : cut? separator text with
    | none =>
      exact (cut?_eq_none_iff.1 cut ⟨before, after, whole.symm⟩).elim
    | some sides =>
      obtain ⟨before', after'⟩ := sides
      have whole' := eq_of_cut? cut
      have length := Nat.le_antisymm (length_le_of_cut? cut whole) (first _ _ whole')
      have sides : before' ++ (separator ++ after') = before ++ (separator ++ after) := by
        rw [← List.append_assoc, ← List.append_assoc, ← whole, ← whole']
      obtain ⟨rfl, behind⟩ := List.append_inj sides length
      rw [List.append_cancel_left behind]

-- An earlier occurrence may reach into the separator, but it ends before its last character.
theorem cut?_append_iff (nonempty : separator ≠ []) :
    cut? separator (before ++ separator ++ after) = some (before, after) ↔
      ¬ separator <:+: before ++ separator.dropLast := by
  have shorter : separator.dropLast.length < separator.length := by
    have := List.length_pos_iff.2 nonempty
    rw [List.length_dropLast]
    omega
  induction before with
  | nil =>
    refine iff_of_true ?_ fun found => absurd found.length_le (Nat.not_le.2 shorter)
    obtain ⟨c, rest, rfl⟩ := List.exists_cons_of_ne_nil nonempty
    exact cut?_of_begins (List.isPrefixOf?_eq_some_iff_append_eq.2 rfl)
  | cons c before ih =>
    have seam : separator <+: c :: (before ++ separator ++ after) ↔
        separator <+: c :: (before ++ separator.dropLast) := by
      have whole : c :: (before ++ separator ++ after) =
          c :: (before ++ separator.dropLast) ++ (separator.getLast nonempty :: after) := by
        conv => lhs; rw [← List.dropLast_concat_getLast nonempty]
        simp only [List.append_assoc, List.cons_append, List.nil_append]
      rw [whole]
      refine ⟨fun found => ?_, fun found => found.trans (List.prefix_append _ _)⟩
      apply List.prefix_of_prefix_length_le found (List.prefix_append _ _)
      simp only [List.length_cons, List.length_append, List.length_dropLast]
      omega
    rw [List.cons_append, List.cons_append, List.cons_append, cut?_eq_cons_iff, seam,
      List.infix_cons_iff, not_or]
    exact and_congr Iff.rfl ih

-- Two different characters never overlap themselves.
theorem pair_infix_concat_iff {a b : Char} (differ : a ≠ b) :
    [a, b] <:+: before ++ [a] ↔ [a, b] <:+: before := by
  rw [List.infix_concat_iff, or_iff_right_iff_imp]
  intro ends
  obtain absurd | ⟨rest, pair, _⟩ := List.suffix_concat_iff.1 ends
  · cases absurd
  · have last : some b = some a := by
      simpa using congrArg List.getLast? pair
    cases last
    exact (differ rfl).elim

theorem cut?_pair_iff {a b : Char} (differ : a ≠ b) :
    cut? [a, b] (before ++ [a, b] ++ after) = some (before, after) ↔
      ¬ [a, b] <:+: before := by
  rw [cut?_append_iff (List.cons_ne_nil a [b]), List.dropLast_cons_cons, List.dropLast_singleton,
    pair_infix_concat_iff differ]

/-! ### Cutting at the last occurrence of a character -/

theorem cutLast?_eq_none_iff {last : Char} : cutLast? last text = none ↔ last ∉ text := by
  induction text with
  | nil => simp [cutLast?]
  | cons c text ih =>
    rw [cutLast?]
    cases later : cutLast? last text with
    | some sides =>
      have found : last ∈ text := Decidable.not_not.1 fun missing =>
        nomatch later.symm.trans (ih.2 missing)
      simp [found]
    | none => simp [ih.1 later, eq_comm]

theorem cutLast?_eq_some_iff {last : Char} :
    cutLast? last text = some (before, after) ↔ text = before ++ last :: after ∧ last ∉ after := by
  constructor
  · intro cut
    induction text generalizing before with
    | nil => cases cut
    | cons c text ih =>
      rw [cutLast?] at cut
      cases later : cutLast? last text with
      | some sides =>
        rw [later] at cut
        cases cut
        obtain ⟨whole, missing⟩ := ih later
        exact ⟨congrArg (List.cons c) whole, missing⟩
      | none =>
        simp only [later] at cut
        split at cut
        · next same =>
          cases cut
          rw [same]
          exact ⟨rfl, cutLast?_eq_none_iff.1 later⟩
        · cases cut
  · rintro ⟨rfl, missing⟩
    induction before with
    | nil =>
      rw [List.nil_append, cutLast?, cutLast?_eq_none_iff.2 missing]
      exact if_pos rfl
    | cons c before ih => rw [List.cons_append, cutLast?, ih]

end TunnelBroker.Text
