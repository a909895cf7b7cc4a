import TunnelBroker.Privacy.Files
import TunnelBroker.Proofs.FileSystem.Entry
import TunnelBroker.Proofs.Path
import Mathlib.Data.List.DropRight

/-!
The directory that a path names as its own. Main statements: a path goes through its directory
to a single name, and so whatever is found under a path has its directory above it.
-/

set_option autoImplicit false

namespace TunnelBroker

namespace Path

variable {path directory : Path}

/-! ### Segments -/

theorem slash_not_mem_of_mem_splitOnP {bytes segment : Bytes}
    (member : segment ∈ bytes.splitOnP (· == slash)) : slash ∉ segment := by
  induction bytes generalizing segment with
  | nil =>
    rw [List.splitOnP_nil, List.mem_singleton] at member
    rw [member]
    exact List.not_mem_nil
  | cons byte bytes ih =>
    rw [List.splitOnP_cons_eq_if_modifyHead] at member
    split at member
    · rcases List.mem_cons.1 member with rfl | later
      · exact List.not_mem_nil
      · exact ih later
    · next differ =>
      obtain ⟨head, others, split⟩ :=
        List.exists_cons_of_ne_nil (List.splitOnP_ne_nil (· == slash) bytes)
      rw [split] at member ih
      rcases List.mem_cons.1 member with rfl | later
      · intro found
        rcases List.mem_cons.1 found with same | behind
        · exact differ (beq_iff_eq.2 same.symm)
        · exact ih List.mem_cons_self behind
      · exact ih (List.mem_cons_of_mem _ later)

theorem segments_ofSegments {segments : List Bytes} (nonempty : segments ≠ [])
    (flat : ∀ segment ∈ segments, slash ∉ segment) :
    (ofSegments segments).segments = segments := by
  have split := List.splitOn_intercalate slash flat nonempty
  rwa [List.splitOn_eq_splitOnP] at split

theorem segments_of_isAbsolute (absolute : path.isAbsolute = true) :
    ∃ others, path.segments = [] :: others := by
  obtain ⟨bytes, whole⟩ := List.head?_eq_some_iff.1 (beq_iff_eq.1 absolute)
  have split : List.splitOnP (· == slash) ([] ++ slash :: bytes) =
      List.splitOnP (· == slash) [] ++ List.splitOnP (· == slash) bytes :=
    List.splitOnP_append_cons [] bytes (beq_self_eq_true slash)
  refine ⟨List.splitOnP (· == slash) bytes, ?_⟩
  rw [segments, whole]
  exact split

theorem exists_dropIdleTail (segments : List Bytes) :
    ∃ tail, segments = dropIdleTail segments ++ tail ∧ ∀ segment ∈ tail, isIdle segment = true :=
  ⟨segments.rtakeWhile isIdle, List.rdropWhile_append_rtakeWhile.symm,
    fun _ => List.mem_rtakeWhile_imp⟩

theorem not_isIdle_of_concat {segments body : List Bytes} {name : Bytes}
    (parts : dropIdleTail segments = body ++ [name]) : isIdle name = false := by
  have parts : segments.rdropWhile isIdle = body ++ [name] := parts
  have nonempty : segments.rdropWhile isIdle ≠ [] := by simp [parts]
  simpa [parts] using List.rdropWhile_last_not isIdle segments nonempty

theorem eq_dot_of_idle {segments : List Bytes} (idle : ∀ segment ∈ segments, isIdle segment = true)
    {step : Bytes} (member : step ∈ segments.filter (· != [])) : step = dot := by
  obtain ⟨found, nonempty⟩ := List.mem_filter.1 member
  have := idle step found
  simp only [isIdle, Bool.or_eq_true, beq_iff_eq] at this
  exact this.resolve_left (bne_iff_ne.1 nonempty)

/-- How a path of several segments is cut to that of its directory. -/
structure Cut (path : Path) (first : Bytes) (kept before : List Bytes) (name : Bytes)
    (after : List Bytes) : Prop where
  segments : path.segments = (first :: kept) ++ before ++ name :: after
  idleBefore : ∀ segment ∈ before, isIdle segment = true
  busy : isIdle name = false
  idleAfter : ∀ segment ∈ after, isIdle segment = true

-- The directory has the segments that are kept.
theorem cut_of_parent? (above : path.parent? = some directory) (nonempty : directory.bytes ≠ []) :
    ∃ first kept before name after, path.Cut first kept before name after ∧
      directory = match kept with
        | [] => if path.isAbsolute then ⟨[slash]⟩ else ofSegments [first]
        | kept => ofSegments (first :: kept) := by
  unfold parent? at above
  split at above
  · cases above
  split at above
  · cases above
  next first others split =>
    obtain ⟨after, whole, idleAfter⟩ := exists_dropIdleTail others
    rcases List.eq_nil_or_concat (dropIdleTail others) with none | ⟨body, name, parts⟩
    · simp only [none] at above
      split at above
      · cases above
      · cases above
        exact absurd rfl nonempty
    · rw [List.concat_eq_append] at parts
      obtain ⟨before, rest, idleBefore⟩ := exists_dropIdleTail body
      refine ⟨first, dropIdleTail body, before, name, after,
        ⟨?_, idleBefore, not_isIdle_of_concat parts, idleAfter⟩, ?_⟩
      · rw [split, List.cons_append, List.cons_append, ← rest, whole, parts, List.append_assoc,
          List.singleton_append]
      · rw [parts] at above
        split at above
        · next empty => simp at empty
        · rw [List.dropLast_concat] at above
          cases kept : dropIdleTail body with
          | nil => simpa [kept] using above.symm
          | cons second others => simpa [kept] using above.symm

theorem Cut.flat {first name : Bytes} {kept before after : List Bytes}
    (cut : path.Cut first kept before name after) : ∀ segment ∈ first :: kept, slash ∉ segment := by
  intro segment member
  have among : segment ∈ path.segments := by
    rw [cut.segments, List.append_assoc]
    exact List.mem_append_left _ member
  exact slash_not_mem_of_mem_splitOnP among

-- A path goes through its directory to a name that it does not stay at or pass by.
theorem steps_of_parent? (above : path.parent? = some directory) (nonempty : directory.bytes ≠ []) :
    ∃ before name after, path.steps = directory.steps ++ before ++ name :: after ∧
      (∀ step ∈ before, step = dot) ∧ (∀ step ∈ after, step = dot) ∧ isIdle name = false := by
  obtain ⟨first, kept, before, name, after, cut, same⟩ := cut_of_parent? above nonempty
  have filled : (name != []) = true := by
    rw [bne_iff_ne]
    rintro rfl
    cases cut.busy
  have directorySteps : directory.steps = (first :: kept).filter (· != []) := by
    subst same
    cases kept with
    | nil =>
      dsimp only
      split
      · next absolute =>
        obtain ⟨others, split⟩ := segments_of_isAbsolute absolute
        obtain ⟨rfl, -⟩ := List.cons.inj (split.symm.trans cut.segments)
        rfl
      · rw [steps, segments_ofSegments (List.cons_ne_nil _ _) cut.flat]
    | cons second others => rw [steps, segments_ofSegments (List.cons_ne_nil _ _) cut.flat]
  refine ⟨before.filter (· != []), name, after.filter (· != []), ?_,
    fun _ => eq_dot_of_idle cut.idleBefore, fun _ => eq_dot_of_idle cut.idleAfter, cut.busy⟩
  have last : (name :: after).filter (· != []) = name :: after.filter (· != []) :=
    List.filter_cons_of_pos filled
  rw [steps, cut.segments, directorySteps, List.filter_append, List.filter_append, last]

theorem prefix_intercalate {segments others : List Bytes} (nonempty : segments ≠ []) :
    [slash].intercalate segments <+: [slash].intercalate (segments ++ others) := by
  induction segments with
  | nil => exact absurd rfl nonempty
  | cons segment segments ih =>
    cases segments with
    | nil =>
      cases others with
      | nil => exact List.prefix_refl _
      | cons other others =>
        rw [List.intercalate_singleton, List.singleton_append, List.intercalate_cons_cons,
          List.append_assoc]
        exact List.prefix_append ..
    | cons next segments =>
      rw [List.cons_append, List.cons_append, List.intercalate_cons_cons,
        List.intercalate_cons_cons, List.prefix_append_right_inj]
      exact ih (List.cons_ne_nil _ _)

-- The text of a path begins with that of its directory.
theorem prefix_of_parent? (above : path.parent? = some directory)
    (nonempty : directory.bytes ≠ []) : directory.bytes <+: path.bytes := by
  obtain ⟨first, kept, before, name, after, cut, same⟩ := cut_of_parent? above nonempty
  have whole : [slash].intercalate path.segments = path.bytes := by
    have joined : [slash].intercalate (path.bytes.splitOn slash) = path.bytes :=
      List.intercalate_splitOn slash
    rwa [List.splitOn_eq_splitOnP] at joined
  have begins : (ofSegments (first :: kept)).bytes <+: path.bytes := by
    rw [← whole, cut.segments, List.append_assoc]
    exact prefix_intercalate (List.cons_ne_nil _ _)
  subst same
  cases kept with
  | nil =>
    dsimp only
    split
    · next absolute =>
      obtain ⟨bytes, whole⟩ := List.head?_eq_some_iff.1 (beq_iff_eq.1 absolute)
      rw [whole]
      exact List.prefix_append [slash] bytes
    · exact begins
  | cons second others => exact begins

theorem goesUp_iff : path.goesUp = true ↔ dotDot ∈ path.steps := by
  have filled : (dotDot != []) = true := rfl
  rw [goesUp_iff_mem_segments, steps, List.mem_filter, filled]
  simp

theorem goesUp_of_parent? (above : path.parent? = some directory) (nonempty : directory.bytes ≠ [])
    (down : path.goesUp = false) : directory.goesUp = false := by
  obtain ⟨before, name, after, steps, -⟩ := steps_of_parent? above nonempty
  rw [Bool.eq_false_iff, ne_eq, goesUp_iff] at down ⊢
  intro found
  apply down
  rw [steps, List.append_assoc]
  exact List.mem_append_left _ found

end Path

namespace FileSystem

variable {files : FileSystem} {path directory : Path} {follows isDirectory : Bool}

theorem sound_of_parent? (above : path.parent? = some directory) (nonempty : directory.bytes ≠ [])
    (sound : pathFault? path = none) : pathFault? directory = none := by
  have begins := Path.prefix_of_parent? above nonempty
  obtain ⟨noNul, -, short⟩ := pathFault?_eq_none_iff.1 sound
  exact pathFault?_eq_none_iff.2 ⟨fun nul => noNul (begins.subset nul), nonempty,
    Nat.lt_of_le_of_lt begins.length_le short⟩

-- Whoever gets to the end of a path, whatever there is, has gone through its directory.
theorem located_parent {place : Place}
    (located : files.locateAs path follows isDirectory = .ok place)
    (above : path.parent? = some directory) (nonempty : directory.bytes ≠ []) :
    ∃ location node, Located files directory location node := by
  have sound := sound_of_locateAs located
  obtain ⟨before, name, after, steps, -⟩ := Path.steps_of_parent? above nonempty
  obtain ⟨first, others, rest⟩ :=
    List.exists_cons_of_ne_nil (List.append_ne_nil_of_right_ne_nil before
      (List.cons_ne_nil name after))
  rw [locateAs_of_sound sound, steps, List.append_assoc, rest] at located
  obtain ⟨location, links, leads, walked⟩ := exists_leads_of_walk located
  rw [walk_eq] at walked
  obtain ⟨node, found, isDirectory, -⟩ := isOpen_of_traverse walked
  exact ⟨location, node, sound_of_parent? above nonempty sound, ⟨links, leads⟩, found, isDirectory⟩

end FileSystem

end TunnelBroker
