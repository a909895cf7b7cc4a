import TunnelBroker.Proofs.FileSystem.Change
import TunnelBroker.Proofs.FileSystem.Way

/-!
Directories and their entries. As long as nothing on the way to a directory changes, its
entries are found in the same place, and they can be told apart by their names.
-/

set_option autoImplicit false

namespace TunnelBroker.FileSystem

variable {files after : FileSystem} {directory entry : Path} {location : Location}
  {node : FileNode}

/-- There is a directory where a path leads to. -/
structure Located (files : FileSystem) (directory : Path) (location : Location)
    (node : FileNode) : Prop where
  sound : pathFault? directory = none
  leads : ∃ rest, files.Leads linkLimit [] directory.steps location rest
  found : files.node? location = some node
  isDirectory : node.isDirectory = true

theorem pathFault?_eq_none_iff : pathFault? directory = none ↔
    0 ∉ directory.bytes ∧ directory.bytes ≠ [] ∧ directory.bytes.length < pathLimit := by
  unfold pathFault?
  split
  · next nul => simp [List.contains_iff_mem.1 nul]
  · next noNul =>
    have noNul : 0 ∉ directory.bytes := fun nul => noNul (List.contains_iff_mem.2 nul)
    split
    · next empty => simp [List.isEmpty_iff.1 empty]
    · next nonempty =>
      have nonempty : directory.bytes ≠ [] := fun empty => nonempty (List.isEmpty_iff.2 empty)
      split
      · next long => simp [Nat.not_lt.2 long]
      · next short => simp [noNul, nonempty, Nat.not_le.1 short]

theorem nonempty_of_sound (sound : pathFault? directory = none) : directory.bytes ≠ [] :=
  (pathFault?_eq_none_iff.1 sound).2.1

theorem locateAs_of_sound (sound : pathFault? directory = none) (follows isDirectory : Bool) :
    files.locateAs directory follows isDirectory =
      files.walk follows linkLimit [] directory.steps isDirectory := by
  rw [locateAs, sound]

theorem sound_of_locateAs {follows isDirectory : Bool} {place : Place}
    (located : files.locateAs directory follows isDirectory = .ok place) :
    pathFault? directory = none := by
  unfold locateAs at located
  split at located
  · cases located
  · assumption

theorem node_of_locateAs {follows isDirectory : Bool} {place : Place}
    (located : files.locateAs directory follows isDirectory = .ok place) :
    place.node = files.node? place.location := by
  rw [locateAs_of_sound (sound_of_locateAs located)] at located
  exact node_of_walk located

theorem Located.locateAs_eq (located : Located files directory location node) (isDirectory : Bool) :
    files.locateAs directory true isDirectory = .ok ⟨location, some node⟩ := by
  obtain ⟨rest, leads⟩ := located.leads
  rw [locateAs_of_sound located.sound, leads.walk located.found located.isDirectory]

theorem Located.find (located : Located files directory location node) :
    files.find directory true = .ok node := by
  rw [FileSystem.find, locate, located.locateAs_eq]

theorem Located.unique {other : Location} {found : FileNode}
    (located : Located files directory location node)
    (again : Located files directory other found) : location = other ∧ node = found := by
  cases (located.locateAs_eq false).symm.trans (again.locateAs_eq false)
  exact ⟨rfl, rfl⟩

theorem located_of_locateAs {follows isDirectory : Bool} {place : Place}
    (keeps : Keeps files after) (ends : EndsAt after place)
    (walked : files.locateAs directory follows isDirectory = .ok place) :
    ∃ node, Located after directory place.location node := by
  have sound := sound_of_locateAs walked
  rw [locateAs_of_sound sound] at walked
  obtain ⟨-, node, found, isDirectory⟩ := id ends
  exact ⟨node, sound, leads_of_walk keeps ends walked, found, isDirectory⟩

theorem located_of_find (found : files.find directory true = .ok node)
    (isDirectory : node.isDirectory = true) :
    ∃ location, Located files directory location node := by
  unfold FileSystem.find at found
  split at found
  · cases found
  · next place walked =>
    split at found
    · cases found
    · next there atPlace =>
      cases found
      have same : files.node? place.location = some node :=
        (node_of_locateAs walked).symm.trans atPlace
      -- A walk that finds a directory does not end at a link.
      have ends : EndsAt files place := by
        refine ⟨fun other atPlace' => ?_, node, same, isDirectory⟩
        cases atPlace.symm.trans atPlace'
        exact FileNode.not_isLink_of_isDirectory isDirectory
      obtain ⟨there, located⟩ := located_of_locateAs (.refl files) ends walked
      cases same.symm.trans located.found
      exact ⟨place.location, located⟩

-- A directory stays where it is while everything on the way does.
theorem Located.keeps {kept : FileNode} (located : Located files directory location node)
    (keeps : Keeps files after) (found : after.node? location = some kept)
    (isDirectory : kept.isDirectory = true) : Located after directory location kept := by
  obtain ⟨rest, leads⟩ := located.leads
  exact ⟨located.sound, ⟨rest, leads.keeps keeps⟩, found, isDirectory⟩

theorem Located.same (located : Located files directory location node)
    (same : ∀ place found, files.node? place = some found → after.node? place = some found) :
    Located after directory location node := by
  refine located.keeps (fun place found isThere _ => ?_) (same _ _ located.found)
    located.isDirectory
  exact ⟨found, same place found isThere, rfl, id⟩

/-! ### Entries -/

/-- Why an entry of a directory can't be looked up, whatever it is. -/
def entryFault? (path : Path) (parent : FileNode) : Option FileFault :=
  match pathFault? path with
  | some fault => some fault
  | none => if parent.isSearchable then none else some .denied

theorem Located.locateAs_entry (located : Located files directory location node)
    (name : Path.IsName entry.bytes) {follows : Bool}
    (noLink : entryFault? (directory.join entry) node = none → follows = true →
      ∀ found, files.node? (location ++ [entry.bytes]) = some found → ¬ found.IsLink) :
    files.locateAs (directory.join entry) follows false =
      match entryFault? (directory.join entry) node with
      | some fault => .error fault
      | none => .ok ⟨location ++ [entry.bytes], files.node? (location ++ [entry.bytes])⟩ := by
  unfold entryFault? at noLink
  unfold locateAs entryFault?
  cases sound : pathFault? (directory.join entry) with
  | some fault => rfl
  | none =>
    obtain ⟨rest, leads⟩ := located.leads
    -- The way to the directory is the same for each of its entries; what is left is one step.
    rw [Path.steps_join name, leads.walk_append, walk_eq]
    cases isSearchable : node.isSearchable with
    | false => simp [traverse, located.found, located.isDirectory, isSearchable]
    | true =>
      have isOpen : files.IsOpen location :=
        ⟨node, located.found, located.isDirectory, isSearchable⟩
      rw [traverse_last isOpen name.ne_dot name.ne_dotDot name.short]
      · simp
      · exact noLink (by simp [sound, isSearchable])

theorem Located.find_entry (located : Located files directory location node)
    (name : Path.IsName entry.bytes)
    (noLink : entryFault? (directory.join entry) node = none →
      ∀ found, files.node? (location ++ [entry.bytes]) = some found → ¬ found.IsLink) :
    files.find (directory.join entry) true =
      match entryFault? (directory.join entry) node, files.node? (location ++ [entry.bytes]) with
      | some fault, _ => .error fault
      | none, none => .error .notFound
      | none, some found => .ok found := by
  rw [FileSystem.find, locate, Path.endsInSlash_join name,
    located.locateAs_entry name fun sound _ => noLink sound]
  cases entryFault? (directory.join entry) node with
  | some fault => rfl
  | none => cases files.node? (location ++ [entry.bytes]) <;> rfl

end TunnelBroker.FileSystem
