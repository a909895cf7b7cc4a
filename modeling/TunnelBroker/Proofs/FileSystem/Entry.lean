import TunnelBroker.Proofs.FileSystem.Directory

/-!
Entries of directories that paths lead to, whatever there is at them. Main statements: a walk
that comes to a name has gone along a way before, and where nothing was found at the end of a
path, whatever comes there is found later, as long as everything on the way is kept.
-/

set_option autoImplicit false

namespace TunnelBroker.FileSystem

variable {files after : FileSystem} {location entry : Location} {links : Nat}
  {front : List Bytes} {name : Bytes} {path : Path} {follows : Bool} {onLink : Way}

/-- A way through names to an entry of a directory, which has the last name. -/
inductive LeadsInto (files : FileSystem) (links : Nat) (location : Location)
    (front : List Bytes) (name : Bytes) : Location → Prop where
  | enter {directory : Location} {rest : Nat}
    (leads : files.Leads links location front directory rest) (isOpen : files.IsOpen directory)
    (ne_dot : name ≠ Path.dot) (ne_dotDot : name ≠ Path.dotDot)
    (short : name.length ≤ nameLimit) :
    LeadsInto files links location front name (directory ++ [name])

theorem LeadsInto.keeps (keeps : Keeps files after)
    (leadsInto : files.LeadsInto links location front name entry) :
    after.LeadsInto links location front name entry := by
  obtain ⟨leads, isOpen, ne_dot, ne_dotDot, short⟩ := leadsInto
  exact .enter (leads.keeps keeps) (isOpen.keeps keeps) ne_dot ne_dotDot short

theorem LeadsInto.walk (leadsInto : files.LeadsInto links location front name entry)
    (noLink : follows = true → ∀ node, files.node? entry = some node → ¬ node.IsLink) :
    files.walk follows links location (front ++ [name]) false =
      .ok ⟨entry, files.node? entry⟩ := by
  obtain ⟨leads, isOpen, ne_dot, ne_dotDot, short⟩ := leadsInto
  rw [leads.walk_append, walk_eq, traverse_last isOpen ne_dot ne_dotDot short noLink]

/-! ### Walks that succeed -/

-- A walk that comes to a name has gone along a way before.
theorem leads_of_traverse_append {others : List Bytes} {directory : Bool} {place : Place}
    (onward : ∀ location front,
      files.behindLink follows links location (front ++ name :: others) directory = .ok place →
      ∃ earlier goal rest, links = earlier + 1 ∧
        files.Leads earlier location front goal rest ∧
        files.walk follows rest goal (name :: others) directory = .ok place)
    (walked : files.traverse follows (files.behindLink follows links) location
      (front ++ name :: others) directory = .ok place) :
    ∃ goal rest, files.Leads links location front goal rest ∧
      files.walk follows rest goal (name :: others) directory = .ok place := by
  induction front generalizing location with
  | nil => exact ⟨location, links, .arrive .., by rwa [walk_eq]⟩
  | cons first front ih =>
    rw [List.cons_append] at walked
    have isOpen := isOpen_of_traverse walked
    have more : (front ++ name :: others).isEmpty = false := by simp
    generalize whole : front ++ name :: others = steps at walked ih more
    cases passes_of_traverse walked with
    | stay later =>
      obtain ⟨goal, rest, leads, ends⟩ := ih later
      exact ⟨goal, rest, .stay isOpen leads, ends⟩
    | ascend later =>
      obtain ⟨goal, rest, leads, ends⟩ := ih later
      exact ⟨goal, rest, .ascend isOpen leads, ends⟩
    | missing => cases more
    | link => cases more
    | follow ne_dot ne_dotDot short found isLink later =>
      rw [more, Bool.false_and, Bool.or_false, ← whole, ← List.append_assoc] at later
      obtain ⟨earlier, goal, rest, rfl, leads, ends⟩ := onward _ _ later
      exact ⟨goal, rest, .follow isOpen ne_dot ne_dotDot short found isLink leads, ends⟩
    | enter ne_dot ne_dotDot short found _ later =>
      obtain ⟨goal, rest, leads, ends⟩ := ih later
      -- The walk goes on from what it entered, so that is a directory.
      obtain ⟨next, others, rfl⟩ := List.exists_cons_of_ne_nil (List.isEmpty_eq_false_iff.1 more)
      obtain ⟨node, again, isDirectory, -⟩ := isOpen_of_traverse later
      cases found.symm.trans again
      exact ⟨goal, rest, .enter isOpen ne_dot ne_dotDot short found isDirectory leads, ends⟩

theorem exists_leads_of_walk {others : List Bytes} {directory : Bool} {place : Place}
    (walked : files.walk follows links location (front ++ name :: others) directory = .ok place) :
    ∃ goal rest, files.Leads links location front goal rest ∧
      files.walk follows rest goal (name :: others) directory = .ok place := by
  rw [walk_eq] at walked
  -- By induction on the links that may be followed, as each of them goes on with a new walk.
  induction links generalizing location front with
  | zero =>
    refine leads_of_traverse_append (fun _ _ later => ?_) walked
    cases later
  | succ links ih =>
    refine leads_of_traverse_append (fun _ _ later => ?_) walked
    rw [behindLink, walk_eq] at later
    obtain ⟨goal, rest, leads, ends⟩ := ih later
    exact ⟨links, goal, rest, rfl, leads, ends⟩

theorem traverse_nil_ne (directory : Bool) :
    files.traverse follows onLink location [] directory ≠ .ok ⟨entry, none⟩ := by
  intro walked
  unfold traverse at walked
  split at walked
  · cases walked
  · split at walked <;> cases walked

-- Where nothing is found, there is a directory for it.
theorem leadsInto_of_walk
    (walked : files.walk false links location (front ++ [name]) false = .ok ⟨entry, none⟩) :
    files.LeadsInto links location front name entry := by
  obtain ⟨goal, rest, leads, walked⟩ := exists_leads_of_walk walked
  rw [walk_eq] at walked
  have isOpen := isOpen_of_traverse walked
  cases passes_of_traverse walked with
  | stay later => exact absurd later (traverse_nil_ne _)
  | ascend later => exact absurd later (traverse_nil_ne _)
  | missing ne_dot ne_dotDot short _ => exact .enter leads isOpen ne_dot ne_dotDot short
  | follow ne_dot ne_dotDot short found _ _ =>
    -- A link at the end is found itself.
    have ends : files.traverse false (files.behindLink false rest) goal [name] false =
        .ok ⟨goal ++ [name], files.node? (goal ++ [name])⟩ :=
      traverse_last isOpen ne_dot ne_dotDot short (Bool.noConfusion ·)
    rw [walked, found] at ends
    cases ends
  | enter _ _ _ _ _ later => exact absurd later (traverse_nil_ne _)

/-! ### Paths to entries -/

/-- A path leads to an entry of a directory, whatever there is at the entry. -/
structure Reaches (files : FileSystem) (path : Path) (entry : Location) : Prop where
  sound : pathFault? path = none
  way : ∃ front name, path.steps = front ++ [name] ∧
    files.LeadsInto linkLimit [] front name entry

theorem Reaches.keeps (keeps : Keeps files after) (reaches : files.Reaches path entry) :
    after.Reaches path entry := by
  obtain ⟨sound, front, name, steps, leadsInto⟩ := reaches
  exact ⟨sound, front, name, steps, leadsInto.keeps keeps⟩

theorem Reaches.locateAs (reaches : files.Reaches path entry)
    (noLink : follows = true → ∀ node, files.node? entry = some node → ¬ node.IsLink) :
    files.locateAs path follows false = .ok ⟨entry, files.node? entry⟩ := by
  obtain ⟨sound, front, name, steps, leadsInto⟩ := reaches
  rw [locateAs_of_sound sound, steps, leadsInto.walk noLink]

theorem Reaches.locateEntry (reaches : files.Reaches path entry) :
    files.locateEntry path = .ok ⟨entry, files.node? entry⟩ :=
  reaches.locateAs (Bool.noConfusion ·)

theorem Reaches.find_of_some {node : FileNode} (reaches : files.Reaches path entry)
    (isEntry : path.endsInSlash = false) (found : files.node? entry = some node)
    (noLink : ¬ node.IsLink) (follows : Bool) : files.find path follows = .ok node := by
  have located : files.locateAs path follows false = .ok ⟨entry, files.node? entry⟩ := by
    refine reaches.locateAs fun _ other again => ?_
    cases found.symm.trans again
    exact noLink
  rw [FileSystem.find, locate, isEntry, located, found]

theorem Reaches.find_of_none (reaches : files.Reaches path entry)
    (isEntry : path.endsInSlash = false) (missing : files.node? entry = none) (follows : Bool) :
    files.find path follows = .error .notFound := by
  have located : files.locateAs path follows false = .ok ⟨entry, files.node? entry⟩ := by
    refine reaches.locateAs fun _ other again => ?_
    cases missing.symm.trans again
  rw [FileSystem.find, locate, isEntry, located, missing]

-- Who gets to an entry of a directory gets to all others.
theorem exists_reaches_of_locateAs {directory entry : Path} {isDirectory : Bool} {place : Place}
    (name : Path.IsName entry.bytes)
    (located : files.locateAs (directory.join entry) follows isDirectory = .ok place) :
    ∃ location, ∀ other : Path, Path.IsName other.bytes →
      pathFault? (directory.join other) = none →
      files.Reaches (directory.join other) (location ++ [other.bytes]) := by
  rw [locateAs_of_sound (sound_of_locateAs located), Path.steps_join name] at located
  obtain ⟨location, rest, leads, walked⟩ := exists_leads_of_walk located
  rw [walk_eq] at walked
  have isOpen := isOpen_of_traverse walked
  refine ⟨location, fun other otherName sound => ⟨sound, _, _, Path.steps_join otherName, ?_⟩⟩
  exact .enter leads isOpen otherName.ne_dot otherName.ne_dotDot otherName.short

-- As long as there are no new ways, a path that still leads somewhere leads to the same entry.
theorem Reaches.still {directory name : Path} {isDirectory : Bool} {place : Place}
    (reaches : files.Reaches (directory.join name) entry) (isName : Path.IsName name.bytes)
    (keeps : Keeps after files)
    (located : after.locateAs (directory.join name) follows isDirectory = .ok place) :
    after.Reaches (directory.join name) entry := by
  obtain ⟨location, others⟩ := exists_reaches_of_locateAs isName located
  have still := others name isName (sound_of_locateAs located)
  cases (still.keeps keeps).locateEntry.symm.trans reaches.locateEntry
  exact still

theorem exists_locateAs_of_find {node : FileNode} (found : files.find path follows = .ok node) :
    ∃ place, files.locateAs path follows path.endsInSlash = .ok place := by
  unfold FileSystem.find locate at found
  split at found
  · cases found
  · next place located => exact ⟨place, located⟩

-- A path under which nothing is found leads to the place where something could be.
theorem reaches_of_locateEntry (located : files.locateEntry path = .ok ⟨entry, none⟩) :
    files.Reaches path entry := by
  have sound := sound_of_locateAs located
  rw [locateEntry, locateAs_of_sound sound] at located
  refine ⟨sound, ?_⟩
  rcases List.eq_nil_or_concat path.steps with none | ⟨front, name, steps⟩
  · rw [none, walk_eq] at located
    exact absurd located (traverse_nil_ne _)
  · rw [List.concat_eq_append] at steps
    rw [steps] at located
    exact ⟨front, name, steps, leadsInto_of_walk located⟩

/-! ### New entries -/

theorem vacancy_eq_ok {taken : FileFault} (vacant : files.vacancy path taken = .ok location) :
    files.locateEntry path = .ok ⟨location, none⟩ ∧ files.isChangeable location = true := by
  unfold vacancy at vacant
  cases entry : files.locateEntry path with
  | error fault => simp [entry] at vacant
  | ok place =>
    obtain ⟨there, node⟩ := place
    simp only [entry] at vacant
    split at vacant
    · cases vacant
    · next free =>
      split at vacant
      · next changeable =>
        cases vacant
        exact ⟨by simpa using free, changeable⟩
      · cases vacant

theorem node?_of_locateEntry (located : files.locateEntry path = .ok ⟨location, none⟩) :
    files.node? location = none :=
  (node_of_locateAs located).symm

theorem keeps_create (vacant : files.node? location = none) (kind : FileKind) (mode : Nat) :
    Keeps files (files.create location kind mode) := by
  apply keeps_of_others
  · intro node found
    cases vacant.symm.trans found
  · intro other differ
    rw [create, node?_put, if_neg differ]

end TunnelBroker.FileSystem
