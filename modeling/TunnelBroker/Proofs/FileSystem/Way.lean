import TunnelBroker.FileSystem

/-!
Ways through directories. A way leads through directories and links only, so whatever
happens to other nodes, it leads to the same place. Main statements: a directory is found
where the way leads that goes through all steps of its path, and its entries are looked up
there.
-/

set_option autoImplicit false

namespace TunnelBroker

/-! ### Paths of entries -/

namespace Path

/-- The names that an entry of a directory can have. -/
structure IsName (name : Bytes) : Prop where
  nonempty : name ≠ []
  flat : slash ∉ name
  ne_dot : name ≠ dot
  ne_dotDot : name ≠ dotDot
  short : name.length ≤ FileSystem.nameLimit

variable {directory entry : Path}

theorem bytes_join (relative : entry.isAbsolute = false) (here : directory.bytes ≠ []) :
    ∃ before after, (directory.join entry).bytes = before ++ slash :: entry.bytes ∧
      directory.bytes = before ++ after ∧ (after = [] ∨ after = [slash]) := by
  unfold join
  rw [if_neg (by simp [relative, here])]
  split
  · next last =>
    obtain ⟨before, whole⟩ := List.getLast?_eq_some_iff.1 last
    exact ⟨before, [slash], by simp [whole], whole, .inr rfl⟩
  · exact ⟨directory.bytes, [], rfl, (List.append_nil _).symm, .inl rfl⟩

theorem isAbsolute_of_isName (name : IsName entry.bytes) : entry.isAbsolute = false := by
  unfold isAbsolute
  cases bytes : entry.bytes with
  | nil => rfl
  | cons byte rest =>
    have differ : byte ≠ slash := fun same => name.flat (by simp [bytes, same])
    simpa using differ

theorem join_of_empty (empty : directory.bytes = []) : directory.join entry = entry := by
  unfold join
  rw [if_pos (by simp [empty])]

-- To reach an entry one goes to its directory first.
theorem steps_join (name : IsName entry.bytes) :
    (directory.join entry).steps = directory.steps ++ [entry.bytes] := by
  have flat : ∀ byte ∈ entry.bytes, (byte == slash) = false := fun byte member =>
    beq_eq_false_iff_ne.2 fun same => name.flat (same ▸ member)
  have last : [entry.bytes].filter (· != []) = [entry.bytes] := by simp [name.nonempty]
  by_cases here : directory.bytes = []
  · have nowhere : directory.steps = [] := by simp [steps, segments, here]
    rw [join_of_empty here, nowhere, steps, segments, List.splitOnP_eq_singleton flat, last,
      List.nil_append]
  · obtain ⟨before, after, joined, whole, ending⟩ :=
      bytes_join (isAbsolute_of_isName name) here
    have split (front back : Bytes) : List.splitOnP (· == slash) (front ++ slash :: back) =
        List.splitOnP (· == slash) front ++ List.splitOnP (· == slash) back :=
      List.splitOnP_append_cons front back (beq_self_eq_true slash)
    unfold steps segments
    rw [joined, whole, split, List.splitOnP_eq_singleton flat, List.filter_append, last]
    rcases ending with rfl | rfl
    · rw [List.append_nil]
    · rw [split, List.filter_append]
      simp

theorem endsInSlash_join (name : IsName entry.bytes) :
    (directory.join entry).endsInSlash = false := by
  obtain ⟨front, byte, bytes⟩ := (List.eq_nil_or_concat entry.bytes).resolve_left name.nonempty
  rw [List.concat_eq_append] at bytes
  have differ : byte ≠ slash := fun same => name.flat (by simp [bytes, same])
  by_cases here : directory.bytes = []
  · rw [join_of_empty here, endsInSlash, bytes, List.getLast?_concat]
    simpa using differ
  · obtain ⟨before, after, joined, -⟩ := bytes_join (isAbsolute_of_isName name) here
    have last : (before ++ slash :: entry.bytes).getLast? = some byte := by
      rw [bytes, ← List.cons_append, ← List.append_assoc, List.getLast?_concat]
    rw [endsInSlash, joined, last]
    simpa using differ

end Path

namespace FileNode

def IsLink (node : FileNode) : Prop :=
  ∃ target, node.kind = .link target

def IsFile (node : FileNode) : Prop :=
  ∃ content, node.kind = .file content

theorem not_isLink_of_isDirectory {node : FileNode} (isDirectory : node.isDirectory = true) :
    ¬ node.IsLink := by
  rintro ⟨target, isLink⟩
  simp [FileNode.isDirectory, isLink] at isDirectory

-- No way leads through a file.
theorem IsFile.not_passable {node : FileNode} (isFile : node.IsFile) :
    ¬ (node.isDirectory = true ∨ node.IsLink) := by
  obtain ⟨content, isFile⟩ := isFile
  rintro (isDirectory | ⟨target, isLink⟩)
  · simp [FileNode.isDirectory, isFile] at isDirectory
  · cases isFile.symm.trans isLink

-- Nor does one through a socket.
theorem not_passable_of_isSocket {node : FileNode} (isSocket : node.kind = .socket) :
    ¬ (node.isDirectory = true ∨ node.IsLink) := by
  rintro (isDirectory | ⟨target, isLink⟩)
  · simp [FileNode.isDirectory, isSocket] at isDirectory
  · cases isSocket.symm.trans isLink

end FileNode

namespace FileSystem

variable {files after : FileSystem} {location goal : Location} {links rest : Nat}
  {steps : List Bytes}

/-- Whether one may go on from a place. -/
def IsOpen (files : FileSystem) (location : Location) : Prop :=
  ∃ node, files.node? location = some node ∧ node.isDirectory = true ∧ node.isSearchable = true

/-- A way from one place to another, with the links that may be followed before and after it. -/
inductive Leads (files : FileSystem) : Nat → Location → List Bytes → Location → Nat → Prop where
  | arrive (links : Nat) (location : Location) : Leads files links location [] location links
  | stay {links rest : Nat} {location goal : Location} {steps : List Bytes}
    (isOpen : files.IsOpen location) (later : Leads files links location steps goal rest) :
    Leads files links location (Path.dot :: steps) goal rest
  | ascend {links rest : Nat} {location goal : Location} {steps : List Bytes}
    (isOpen : files.IsOpen location)
    (later : Leads files links location.dropLast steps goal rest) :
    Leads files links location (Path.dotDot :: steps) goal rest
  | enter {links rest : Nat} {location goal : Location} {name : Bytes} {steps : List Bytes}
    {node : FileNode} (isOpen : files.IsOpen location) (ne_dot : name ≠ Path.dot)
    (ne_dotDot : name ≠ Path.dotDot) (short : name.length ≤ nameLimit)
    (found : files.node? (location ++ [name]) = some node) (isDirectory : node.isDirectory = true)
    (later : Leads files links (location ++ [name]) steps goal rest) :
    Leads files links location (name :: steps) goal rest
  | follow {links rest : Nat} {location goal : Location} {name : Bytes} {steps : List Bytes}
    {node : FileNode} {target : Path} (isOpen : files.IsOpen location) (ne_dot : name ≠ Path.dot)
    (ne_dotDot : name ≠ Path.dotDot) (short : name.length ≤ nameLimit)
    (found : files.node? (location ++ [name]) = some node) (isLink : node.kind = .link target)
    (later : Leads files links (if target.isAbsolute then [] else location)
      (target.steps ++ steps) goal rest) :
    Leads files (links + 1) location (name :: steps) goal rest

/-- Whatever can be passed in one file system can be passed in the other. -/
def Keeps (files after : FileSystem) : Prop :=
  ∀ location node, files.node? location = some node → node.isDirectory = true ∨ node.IsLink →
    ∃ kept, after.node? location = some kept ∧ kept.kind = node.kind ∧
      (node.isSearchable = true → kept.isSearchable = true)

theorem Keeps.refl (files : FileSystem) : Keeps files files :=
  fun _ node found _ => ⟨node, found, rfl, id⟩

-- What no way leads through can change.
theorem keeps_of_others {entry : Location}
    (leaf : ∀ node, files.node? entry = some node → ¬ (node.isDirectory = true ∨ node.IsLink))
    (others : ∀ other, other ≠ entry → after.node? other = files.node? other) :
    Keeps files after := by
  intro other node found passable
  have differ : other ≠ entry := by
    rintro rfl
    exact leaf node found passable
  exact ⟨node, (others other differ).trans found, rfl, id⟩

theorem IsOpen.keeps (keeps : Keeps files after) (isOpen : files.IsOpen location) :
    after.IsOpen location := by
  obtain ⟨node, found, isDirectory, isSearchable⟩ := isOpen
  obtain ⟨kept, found, sameKind, searchable⟩ := keeps location node found (.inl isDirectory)
  refine ⟨kept, found, ?_, searchable isSearchable⟩
  rwa [FileNode.isDirectory, sameKind]

theorem Leads.keeps (keeps : Keeps files after)
    (leads : Leads files links location steps goal rest) :
    Leads after links location steps goal rest := by
  induction leads with
  | arrive links location => exact .arrive links location
  | stay isOpen _ ih => exact .stay (isOpen.keeps keeps) ih
  | ascend isOpen _ ih => exact .ascend (isOpen.keeps keeps) ih
  | enter isOpen ne_dot ne_dotDot short found isDirectory _ ih =>
    obtain ⟨kept, found, sameKind, -⟩ := keeps _ _ found (.inl isDirectory)
    refine .enter (isOpen.keeps keeps) ne_dot ne_dotDot short found ?_ ih
    rwa [FileNode.isDirectory, sameKind]
  | follow isOpen ne_dot ne_dotDot short found isLink _ ih =>
    obtain ⟨kept, found, sameKind, -⟩ := keeps _ _ found (.inr ⟨_, isLink⟩)
    exact .follow (isOpen.keeps keeps) ne_dot ne_dotDot short found (sameKind.trans isLink) ih

/-! ### Walking -/

/-- How to go on behind a link. -/
def behindLink (files : FileSystem) (follows : Bool) : (links : Nat) → Way
  | 0 => fun _ _ _ => .error .tooManyLinks
  | links + 1 => files.walk follows links

theorem walk_eq (follows : Bool) (links : Nat) :
    files.walk follows links = files.traverse follows (files.behindLink follows links) := by
  cases links <;> rfl

variable {follows directory : Bool} {onLink : Way}

theorem traverse_dot (isOpen : files.IsOpen location) :
    files.traverse follows onLink location (Path.dot :: steps) directory =
      files.traverse follows onLink location steps directory := by
  obtain ⟨node, found, isDirectory, isSearchable⟩ := isOpen
  simp [traverse, found, isDirectory, isSearchable]

theorem traverse_dotDot (isOpen : files.IsOpen location) :
    files.traverse follows onLink location (Path.dotDot :: steps) directory =
      files.traverse follows onLink location.dropLast steps directory := by
  obtain ⟨node, found, isDirectory, isSearchable⟩ := isOpen
  have differ : Path.dotDot ≠ Path.dot := by decide
  simp [traverse, found, isDirectory, isSearchable, differ]

theorem traverse_entry {name : Bytes} {node : FileNode} (isOpen : files.IsOpen location)
    (ne_dot : name ≠ Path.dot) (ne_dotDot : name ≠ Path.dotDot) (short : name.length ≤ nameLimit)
    (found : files.node? (location ++ [name]) = some node) (noLink : ¬ node.IsLink) :
    files.traverse follows onLink location (name :: steps) directory =
      files.traverse follows onLink (location ++ [name]) steps directory := by
  obtain ⟨here, foundHere, isDirectory, isSearchable⟩ := isOpen
  rw [traverse]
  simp only [foundHere, isDirectory, isSearchable, ne_dot, ne_dotDot, found, Bool.not_true,
    Bool.false_eq_true, if_false, Nat.not_lt.2 short]
  split
  · next target isLink => exact absurd ⟨target, isLink⟩ noLink
  · rfl

theorem traverse_link {name : Bytes} {node : FileNode} {target : Path}
    (isOpen : files.IsOpen location) (ne_dot : name ≠ Path.dot) (ne_dotDot : name ≠ Path.dotDot)
    (short : name.length ≤ nameLimit) (found : files.node? (location ++ [name]) = some node)
    (isLink : node.kind = .link target) (followed : steps ≠ [] ∨ follows = true) :
    files.traverse follows onLink location (name :: steps) directory =
      onLink (if target.isAbsolute then [] else location) (target.steps ++ steps)
        (directory || steps.isEmpty && target.endsInSlash) := by
  obtain ⟨here, foundHere, isDirectory, isSearchable⟩ := isOpen
  -- A link at the very end is not followed unless that is asked for.
  have goesOn : (steps.isEmpty && !(follows || directory)) = false := by
    rcases followed with more | rfl
    · simp [more]
    · simp
  rw [traverse]
  simp only [foundHere, isDirectory, isSearchable, ne_dot, ne_dotDot, found, isLink, goesOn,
    Bool.not_true, Bool.false_eq_true, if_false, Nat.not_lt.2 short]

-- Whatever there is under the last name is found, unless it is a link and links are followed.
theorem traverse_last {name : Bytes} (isOpen : files.IsOpen location) (ne_dot : name ≠ Path.dot)
    (ne_dotDot : name ≠ Path.dotDot) (short : name.length ≤ nameLimit)
    (noLink : follows = true →
      ∀ node, files.node? (location ++ [name]) = some node → ¬ node.IsLink) :
    files.traverse follows onLink location [name] false =
      .ok ⟨location ++ [name], files.node? (location ++ [name])⟩ := by
  obtain ⟨here, foundHere, isDirectory, isSearchable⟩ := id isOpen
  cases found : files.node? (location ++ [name]) with
  | none =>
    simp [traverse, foundHere, isDirectory, isSearchable, ne_dot, ne_dotDot,
      Nat.not_lt.2 short, found]
  | some node =>
    by_cases isLink : node.IsLink
    · obtain ⟨target, kind⟩ := id isLink
      have stops : follows = false :=
        Bool.eq_false_iff.2 fun goesOn => noLink goesOn node found isLink
      simp [traverse, foundHere, isDirectory, isSearchable, ne_dot, ne_dotDot,
        Nat.not_lt.2 short, found, kind, stops]
    · rw [traverse_entry isOpen ne_dot ne_dotDot short found isLink]
      simp [traverse, found]

-- A way is walked up to its end, as long as there is something behind it.
theorem Leads.walk_append (leads : Leads files links location steps goal rest) (name : Bytes)
    (others : List Bytes) :
    files.walk follows links location (steps ++ name :: others) directory =
      files.walk follows rest goal (name :: others) directory := by
  induction leads with
  | arrive links location => rfl
  | stay isOpen _ ih => rw [walk_eq, List.cons_append, traverse_dot isOpen, ← walk_eq, ih]
  | ascend isOpen _ ih => rw [walk_eq, List.cons_append, traverse_dotDot isOpen, ← walk_eq, ih]
  | enter isOpen ne_dot ne_dotDot short found isDirectory _ ih =>
    have noLink := FileNode.not_isLink_of_isDirectory isDirectory
    rw [walk_eq, List.cons_append, traverse_entry isOpen ne_dot ne_dotDot short found noLink,
      ← walk_eq, ih]
  | follow isOpen ne_dot ne_dotDot short found isLink _ ih =>
    have more (front : List Bytes) : (front ++ name :: others).isEmpty = false := by simp
    rw [walk_eq, List.cons_append,
      traverse_link isOpen ne_dot ne_dotDot short found isLink (.inl (by simp)), behindLink,
      more, Bool.false_and, Bool.or_false, ← List.append_assoc, ih]

-- A way to a directory is walked to the directory.
theorem Leads.walk (leads : Leads files links location steps goal rest) {node : FileNode}
    (found : files.node? goal = some node) (isDirectory : node.isDirectory = true) :
    files.walk true links location steps directory = .ok ⟨goal, some node⟩ := by
  induction leads generalizing directory with
  | arrive links location => simp [walk_eq, traverse, found, isDirectory]
  | stay isOpen _ ih => rw [walk_eq, traverse_dot isOpen, ← walk_eq, ih found]
  | ascend isOpen _ ih => rw [walk_eq, traverse_dotDot isOpen, ← walk_eq, ih found]
  | enter isOpen ne_dot ne_dotDot short entry isDirectory _ ih =>
    have noLink := FileNode.not_isLink_of_isDirectory isDirectory
    rw [walk_eq, traverse_entry isOpen ne_dot ne_dotDot short entry noLink, ← walk_eq, ih found]
  | follow isOpen ne_dot ne_dotDot short entry isLink _ ih =>
    rw [walk_eq, traverse_link isOpen ne_dot ne_dotDot short entry isLink (.inr rfl), behindLink,
      ih found]

/-! ### Where walks end -/

/-- What a walk that succeeds does with the first of its names. -/
inductive Passes (files : FileSystem) (follows : Bool) (onLink : Way) (location : Location) :
    Bytes → List Bytes → Bool → Place → Prop where
  | stay {steps : List Bytes} {directory : Bool} {place : Place}
    (later : files.traverse follows onLink location steps directory = .ok place) :
    Passes files follows onLink location Path.dot steps directory place
  | ascend {steps : List Bytes} {directory : Bool} {place : Place}
    (later : files.traverse follows onLink location.dropLast steps directory = .ok place) :
    Passes files follows onLink location Path.dotDot steps directory place
  | missing {name : Bytes} {directory : Bool} (ne_dot : name ≠ Path.dot)
    (ne_dotDot : name ≠ Path.dotDot) (short : name.length ≤ nameLimit)
    (unknown : files.node? (location ++ [name]) = none) :
    Passes files follows onLink location name [] directory ⟨location ++ [name], none⟩
  | link {name : Bytes} {directory : Bool} {node : FileNode}
    (found : files.node? (location ++ [name]) = some node) (isLink : node.IsLink) :
    Passes files follows onLink location name [] directory ⟨location ++ [name], some node⟩
  | follow {name : Bytes} {steps : List Bytes} {directory : Bool} {place : Place}
    {node : FileNode} {target : Path} (ne_dot : name ≠ Path.dot) (ne_dotDot : name ≠ Path.dotDot)
    (short : name.length ≤ nameLimit) (found : files.node? (location ++ [name]) = some node)
    (isLink : node.kind = .link target)
    (later : onLink (if target.isAbsolute then [] else location) (target.steps ++ steps)
      (directory || steps.isEmpty && target.endsInSlash) = .ok place) :
    Passes files follows onLink location name steps directory place
  | enter {name : Bytes} {steps : List Bytes} {directory : Bool} {place : Place}
    {node : FileNode} (ne_dot : name ≠ Path.dot) (ne_dotDot : name ≠ Path.dotDot)
    (short : name.length ≤ nameLimit) (found : files.node? (location ++ [name]) = some node)
    (noLink : ¬ node.IsLink)
    (later : files.traverse follows onLink (location ++ [name]) steps directory = .ok place) :
    Passes files follows onLink location name steps directory place

theorem isOpen_of_traverse {name : Bytes} {place : Place}
    (walked : files.traverse follows onLink location (name :: steps) directory = .ok place) :
    files.IsOpen location := by
  rw [traverse] at walked
  cases found : files.node? location with
  | none => simp [found] at walked
  | some here =>
    simp only [found] at walked
    split at walked
    · cases walked
    · next isDirectory =>
      split at walked
      · cases walked
      · next isSearchable =>
        exact ⟨here, found, by simpa using isDirectory, by simpa using isSearchable⟩

theorem passes_of_traverse {name : Bytes} {place : Place}
    (walked : files.traverse follows onLink location (name :: steps) directory = .ok place) :
    Passes files follows onLink location name steps directory place := by
  have isOpen := isOpen_of_traverse walked
  by_cases ne_dot : name = Path.dot
  · subst ne_dot
    exact .stay (by rwa [traverse_dot isOpen] at walked)
  by_cases ne_dotDot : name = Path.dotDot
  · subst ne_dotDot
    exact .ascend (by rwa [traverse_dotDot isOpen] at walked)
  obtain ⟨here, foundHere, isDirectory, isSearchable⟩ := isOpen
  rw [traverse] at walked
  simp only [foundHere, isDirectory, isSearchable, ne_dot, ne_dotDot, Bool.not_true,
    Bool.false_eq_true, if_false] at walked
  split at walked
  · cases walked
  · next short =>
    have short := Nat.not_lt.1 short
    cases found : files.node? (location ++ [name]) with
    | none =>
      simp only [found] at walked
      cases steps with
      | nil =>
        cases walked
        exact .missing ne_dot ne_dotDot short found
      | cons => cases walked
    | some node =>
      simp only [found] at walked
      split at walked
      · next target isLink =>
        split at walked
        · next ends =>
          obtain rfl := List.isEmpty_iff.1 (Bool.and_eq_true_iff.1 ends).1
          cases walked
          exact .link found ⟨target, isLink⟩
        · exact .follow ne_dot ne_dotDot short found isLink walked
      · next noLink =>
        exact .enter ne_dot ne_dotDot short found (fun ⟨target, isLink⟩ => noLink target isLink)
          walked

-- A walk tells what there is at its end.
theorem node_of_traverse (onward : ∀ location steps directory place,
      onLink location steps directory = .ok place → place.node = files.node? place.location)
    {place : Place} (walked : files.traverse follows onLink location steps directory = .ok place) :
    place.node = files.node? place.location := by
  induction steps generalizing location with
  | nil =>
    unfold traverse at walked
    split at walked
    · cases walked
    · next node found =>
      split at walked
      · cases walked
      · cases walked
        exact found.symm
  | cons name steps ih =>
    cases passes_of_traverse walked with
    | stay later => exact ih later
    | ascend later => exact ih later
    | missing _ _ _ unknown => exact unknown.symm
    | link found _ => exact found.symm
    | follow _ _ _ _ _ later => exact onward _ _ _ _ later
    | enter _ _ _ _ _ later => exact ih later

theorem node_of_walk {place : Place}
    (walked : files.walk follows links location steps directory = .ok place) :
    place.node = files.node? place.location := by
  rw [walk_eq] at walked
  -- By induction on the links that may be followed; between two links a way has an end.
  induction links generalizing location steps directory place with
  | zero =>
    refine node_of_traverse (fun _ _ _ _ later => ?_) walked
    cases later
  | succ links ih =>
    refine node_of_traverse (fun _ _ _ _ later => ?_) walked
    rw [behindLink, walk_eq] at later
    exact ih later

-- Nothing lies behind a file, so a walk that comes to one ends there.
theorem ends_of_traverse {node : FileNode} {place : Place}
    (found : files.node? location = some node) (isFile : node.isDirectory = false)
    (walked : files.traverse follows onLink location steps directory = .ok place) :
    steps = [] ∧ place.location = location := by
  cases steps with
  | nil =>
    simp only [traverse, found] at walked
    split at walked
    · cases walked
    · cases walked
      exact ⟨rfl, rfl⟩
  | cons name steps =>
    obtain ⟨there, foundThere, isDirectory, -⟩ := isOpen_of_traverse walked
    cases found.symm.trans foundThere
    cases isFile.symm.trans isDirectory

/-- The end of a walk, if there is a directory then. -/
def EndsAt (after : FileSystem) (place : Place) : Prop :=
  (∀ node, place.node = some node → ¬ node.IsLink) ∧
    ∃ node, after.node? place.location = some node ∧ node.isDirectory = true

theorem leads_of_traverse (keeps : Keeps files after) {place : Place}
    (ends : EndsAt after place)
    (onward : ∀ location steps directory, onLink location steps directory = .ok place →
      ∃ earlier rest, links = earlier + 1 ∧
        Leads after earlier location steps place.location rest)
    (walked : files.traverse follows onLink location steps directory = .ok place) :
    ∃ rest, Leads after links location steps place.location rest := by
  induction steps generalizing location with
  | nil =>
    unfold traverse at walked
    split at walked
    · cases walked
    · split at walked
      · cases walked
      · cases walked
        exact ⟨links, .arrive links location⟩
  | cons name steps ih =>
    have isOpen := (isOpen_of_traverse walked).keeps keeps
    cases passes_of_traverse walked with
    | stay later =>
      obtain ⟨rest, leads⟩ := ih later
      exact ⟨rest, .stay isOpen leads⟩
    | ascend later =>
      obtain ⟨rest, leads⟩ := ih later
      exact ⟨rest, .ascend isOpen leads⟩
    | missing ne_dot ne_dotDot short _ =>
      obtain ⟨_, node, found, isDirectory⟩ := ends
      exact ⟨links, .enter isOpen ne_dot ne_dotDot short found isDirectory (.arrive ..)⟩
    | link _ isLink => exact absurd isLink (ends.1 _ rfl)
    | follow ne_dot ne_dotDot short found isLink later =>
      obtain ⟨earlier, rest, rfl, leads⟩ := onward _ _ _ later
      obtain ⟨kept, found, sameKind, -⟩ := keeps _ _ found (.inr ⟨_, isLink⟩)
      exact ⟨rest, .follow isOpen ne_dot ne_dotDot short found (sameKind.trans isLink) leads⟩
    | @enter _ _ _ _ node ne_dot ne_dotDot short found noLink later =>
      cases isDirectory : node.isDirectory with
      | true =>
        obtain ⟨kept, found, sameKind, -⟩ := keeps _ _ found (.inl isDirectory)
        obtain ⟨rest, leads⟩ := ih later
        refine ⟨rest, .enter isOpen ne_dot ne_dotDot short found ?_ leads⟩
        rwa [FileNode.isDirectory, sameKind]
      | false =>
        -- What was a file when it was walked to is a directory by now.
        obtain ⟨rfl, here⟩ := ends_of_traverse found isDirectory later
        obtain ⟨_, node, foundAfter, isDirectory⟩ := ends
        rw [here] at foundAfter ⊢
        exact ⟨links, .enter isOpen ne_dot ne_dotDot short foundAfter isDirectory (.arrive ..)⟩

-- A walk that ends at what is a directory then has gone along a way.
theorem leads_of_walk (keeps : Keeps files after) {place : Place} (ends : EndsAt after place)
    (walked : files.walk follows links location steps directory = .ok place) :
    ∃ rest, Leads after links location steps place.location rest := by
  rw [walk_eq] at walked
  induction links generalizing location steps directory with
  | zero =>
    refine leads_of_traverse keeps ends (fun _ _ _ later => ?_) walked
    cases later
  | succ links ih =>
    refine leads_of_traverse keeps ends (fun _ _ _ later => ?_) walked
    rw [behindLink, walk_eq] at later
    obtain ⟨rest, leads⟩ := ih later
    exact ⟨links, rest, rfl, leads⟩

end FileSystem

end TunnelBroker
