import TunnelBroker.FileSystem.Node
import TunnelBroker.Path
import TunnelBroker.Proofs.Text.Utf8

/-!
The check of paths. A path is checked by its components, which leave out all that makes no
difference, and read by its segments. Main statement: a text passes the check as a path exactly
if it has no NUL and no `..` between its slashes, and wherever its names are followed from, the
way leads down only.
-/

set_option autoImplicit false

namespace TunnelBroker.Path

variable {path : Path} {segment : Bytes} {segments : List Bytes}

/-! ### Components and segments -/

theorem component?_eq_up_iff : component? segment = some .up ↔ segment = dotDot := by
  constructor
  · intro up
    unfold component? at up
    split at up
    · cases up
    · split at up
      · next same => exact beq_iff_eq.1 same
      · cases up
  · rintro rfl
    rfl

theorem filterMap_component?_singleton (segment : Bytes) :
    [segment].filterMap component? = (component? segment).toList := by
  cases found : component? segment with
  | none => exact List.filterMap_cons_none found
  | some component => exact List.filterMap_cons_some found

theorem filterMap_component?_splitOnP_cons (piece : Bytes)
    (flat : ∀ byte ∈ piece, (byte == slash) = false) (bytes : Bytes) :
    ((piece ++ slash :: bytes).splitOnP (· == slash)).filterMap component? =
      (component? piece).toList ++ (bytes.splitOnP (· == slash)).filterMap component? := by
  have split : (piece ++ slash :: bytes).splitOnP (· == slash) =
      piece.splitOnP (· == slash) ++ bytes.splitOnP (· == slash) :=
    List.splitOnP_append_cons piece bytes (beq_self_eq_true slash)
  rw [split, List.splitOnP_eq_singleton flat, List.filterMap_append,
    filterMap_component?_singleton]

-- What is read up to each slash is what all slashes together leave.
theorem componentsBehind_eq (bytes : Bytes) :
    componentsBehind bytes = (bytes.splitOnP (· == slash)).filterMap component? := by
  fun_induction componentsBehind bytes with
  | case1 => rfl
  | case2 byte bytes segment ih =>
    have flat : ∀ b ∈ segment, (b == slash) = false := fun b member => by
      simpa using List.all_eq_true.1 List.all_takeWhile b member
    have whole : segment ++ (byte :: bytes).dropWhile (· != slash) = byte :: bytes :=
      List.takeWhile_append_dropWhile
    rw [ih]
    cases behind : (byte :: bytes).dropWhile (· != slash) with
    | nil =>
      rw [behind, List.append_nil] at whole
      rw [← whole, List.drop_eq_nil_of_le (Nat.le_succ _), List.splitOnP_eq_singleton flat,
        filterMap_component?_singleton]
      exact List.append_nil _
    | cons stop rest =>
      have isSlash : stop = slash := by
        have := List.head?_dropWhile_not (· != slash) (byte :: bytes)
        simpa [behind] using this
      rw [behind, isSlash] at whole
      rw [← whole, filterMap_component?_splitOnP_cons segment flat, ← List.drop_drop,
        List.drop_left]
      rfl

/-- What a path says of its start. -/
def beginning (path : Path) : List Component :=
  if path.isAbsolute then [.root] else if startsHere path.bytes then [.here] else []

theorem tail_of_startsHere {bytes : Bytes} (starts : startsHere bytes = true) :
    (bytes.splitOnP (· == slash)).filterMap component? =
      (bytes.tail.splitOnP (· == slash)).filterMap component? := by
  unfold startsHere at starts
  split at starts
  · rfl
  · next byte rest =>
    rw [beq_iff_eq.1 starts]
    exact (filterMap_component?_splitOnP_cons dot (List.forall_mem_singleton.2 rfl) rest).trans
      (filterMap_component?_splitOnP_cons [] (List.forall_mem_nil _) rest).symm
  · cases starts

-- Apart from its start, a path has the components that its segments are.
theorem components_eq (path : Path) :
    path.components = path.beginning ++ path.segments.filterMap component? := by
  unfold components beginning segments
  split
  · next absolute =>
    obtain ⟨bytes, whole⟩ := List.head?_eq_some_iff.1 (beq_iff_eq.1 absolute)
    rw [componentsBehind_eq, whole]
    exact congrArg (Component.root :: ·)
      (filterMap_component?_splitOnP_cons [] (List.forall_mem_nil _) bytes).symm
  · split
    · next starts => rw [componentsBehind_eq, ← tail_of_startsHere starts, List.singleton_append]
    · rw [componentsBehind_eq, List.nil_append]

theorem goesUp_iff_mem_segments : path.goesUp = true ↔ dotDot ∈ path.segments := by
  rw [goesUp, List.contains_iff_mem, components_eq, List.mem_append, List.mem_filterMap]
  constructor
  · rintro (start | ⟨segment, member, up⟩)
    · unfold beginning at start
      split at start
      · cases List.mem_singleton.1 start
      · split at start
        · cases List.mem_singleton.1 start
        · cases start
    · rwa [← component?_eq_up_iff.1 up]
  · exact fun member => .inr ⟨dotDot, member, rfl⟩

theorem goesUp_eq_false_iff : path.goesUp = false ↔ dotDot ∉ path.segments := by
  rw [Bool.eq_false_iff, ne_eq, goesUp_iff_mem_segments]

-- Names are the segments that are not idle.
theorem dotDot_mem_names_iff : dotDot ∈ path.names ↔ dotDot ∈ path.segments := by
  have busy : isIdle dotDot = false := rfl
  rw [names, List.mem_filter, busy]
  simp

theorem fault?_eq_none_iff : path.fault? = none ↔ 0 ∉ path.bytes ∧ dotDot ∉ path.segments := by
  rw [← goesUp_eq_false_iff, fault?]
  cases nul : path.bytes.contains 0 with
  | true => simp [List.contains_iff_mem.1 nul]
  | false =>
    have none : 0 ∉ path.bytes := fun found => by
      rw [List.contains_iff_mem.2 found] at nul
      cases nul
    cases path.goesUp <;> simp [none]

theorem sanitize_eq_ok_iff {result : Path} :
    path.sanitize = .ok result ↔ result = path ∧ path.fault? = none := by
  unfold sanitize
  cases path.fault? with
  | none => simp [eq_comm]
  | some fault => simp

/-! ### Text -/

theorem segments_ofText (text : String) :
    (ofText text).segments = (text.toList.splitOn '/').map Text.encodeChars :=
  Text.splitOnP_encodeChars (by decide) text.toList

theorem nul_mem_ofText_iff {text : String} : 0 ∈ (ofText text).bytes ↔ '\x00' ∈ text.toList :=
  Text.mem_encodeChars_iff (by decide)

theorem dotDot_mem_ofText_iff {text : String} :
    dotDot ∈ (ofText text).segments ↔ ['.', '.'] ∈ text.toList.splitOn '/' := by
  have encoded : dotDot = Text.encodeChars ['.', '.'] := by decide
  rw [segments_ofText, encoded]
  constructor
  · intro found
    obtain ⟨piece, member, same⟩ := List.mem_map.1 found
    rwa [Text.encodeChars_injective same] at member
  · exact List.mem_map_of_mem

/-! ### The way that names tell -/

/-- Follow a segment from a directory by its name alone. There is nothing above the root. -/
def follow (directory : Location) (segment : Bytes) : Option Location :=
  if isIdle segment then some directory
  else if segment = dotDot then
    if directory = [] then none else some directory.dropLast
  else some (directory ++ [segment])

/-- Where segments lead from a directory, unless they step above the root. -/
def followAll (directory : Location) (segments : List Bytes) : Option Location :=
  segments.foldlM follow directory

/-- Where a path begins that is used in a directory. -/
def origin (path : Path) (directory : Location) : Location :=
  if path.isAbsolute then [] else directory

-- Each name leads further down from where the one before has led.
theorem followAll_of_down (down : dotDot ∉ segments) (directory : Location) :
    followAll directory segments = some (directory ++ segments.filter (!isIdle ·)) := by
  induction segments generalizing directory with
  | nil => exact congrArg some (List.append_nil directory).symm
  | cons segment segments ih =>
    obtain ⟨other, later⟩ := not_or.1 (mt List.mem_cons.2 down)
    rw [followAll, List.foldlM_cons, follow]
    cases idle : isIdle segment with
    | true =>
      rw [List.filter_cons_of_neg (by simp [idle])]
      exact ih later directory
    | false =>
      rw [List.filter_cons_of_pos (by simp [idle]), if_neg Bool.false_ne_true,
        if_neg (Ne.symm other), List.append_cons directory segment (List.filter _ _)]
      exact ih later (directory ++ [segment])

/--
A text passes the check as a path, and then as it is, exactly if it has no NUL and no `..` between
its slashes. From any directory, or from the root if it begins with a slash, each part of the way
that such a path tells ends below where the way begins.
-/
theorem sanitize_lets_no_traversal_through (text : String) :
    (∀ path, (ofText text).sanitize = .ok path ↔
      path = ofText text ∧ '\x00' ∉ text.toList ∧ ['.', '.'] ∉ text.toList.splitOn '/') ∧
    ((ofText text).sanitize = .ok (ofText text) →
      ∀ (directory : Location) (walked : List Bytes), walked <+: (ofText text).segments →
        ∃ below, followAll ((ofText text).origin directory) walked =
          some ((ofText text).origin directory ++ below)) := by
  constructor
  · intro path
    rw [sanitize_eq_ok_iff, fault?_eq_none_iff, nul_mem_ofText_iff, dotDot_mem_ofText_iff]
  · intro accepted directory walked part
    obtain ⟨-, -, down⟩ := sanitize_eq_ok_iff.1 accepted |>.imp_right fault?_eq_none_iff.1
    exact ⟨_, followAll_of_down (fun found => down (part.subset found)) _⟩

-- Names that only begin like the directory above are names.
theorem sanitize_keeps_dotted_names :
    let path := ofText "./srv//..a/.../peers.json/"
    path.sanitize = .ok path ∧
      ∀ (directory : Location) (walked : List Bytes), walked <+: path.segments →
        ∃ below, followAll (path.origin directory) walked =
          some (path.origin directory ++ below) := by
  intro path
  have accepted : path.sanitize = .ok path :=
    ((sanitize_lets_no_traversal_through _).1 path).2 ⟨rfl, by decide, by decide⟩
  exact ⟨accepted, (sanitize_lets_no_traversal_through _).2 accepted⟩

-- What is refused may leave the directory, or step above the root.
example :
    followAll [Text.encode "home"] (ofText "state/../../secrets").segments =
        some [Text.encode "secrets"] ∧
      followAll [] (ofText "/../etc/passwd").segments = none := by
  decide +kernel

end TunnelBroker.Path
