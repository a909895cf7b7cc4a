import TunnelBroker.Privacy
import TunnelBroker.Proofs.FileSystem.Directory
import TunnelBroker.Proofs.FileSystem.Outcome

/-!
Drafts: files that are written beside the file that they are to replace. Main statements:
while a draft is opened and written, nothing else changes, and renaming it changes two
entries at most.
-/

set_option autoImplicit false

namespace TunnelBroker.FileSystem

variable {files after : FileSystem} {entry target : Location} {inode : Nat} {content : Bytes}
  {path : Path} {node : FileNode}

/-- A private file of the user's that has no other name. -/
structure IsDraft (files : FileSystem) (entry : Location) (node : FileNode) : Prop where
  isFile : ∃ content, node.kind = .file content
  mode : node.mode = Privacy.peerFile.limit
  owner : node.owner = files.user
  sole : ∀ other found, files.node? other = some found → found.inode = node.inode → other = entry

def draftNode (files : FileSystem) (inode : Nat) (content : Bytes) : FileNode :=
  ⟨inode, .file content, Privacy.peerFile.limit, files.user⟩

/-- Nothing has changed but for a draft that is in its place now. -/
structure Drafted (files after : FileSystem) (entry : Location) (inode : Nat)
    (content : Bytes) : Prop where
  leaf : ∀ node, files.node? entry = some node → files.IsDraft entry node
  user : after.user = files.user
  draft : after.node? entry = some (files.draftNode inode content)
  sole : ∀ other found, after.node? other = some found → found.inode = inode → other = entry
  others : ∀ other, other ≠ entry → after.node? other = files.node? other

theorem Drafted.isDraft (drafted : Drafted files after entry inode content) :
    after.IsDraft entry (files.draftNode inode content) :=
  ⟨⟨content, rfl⟩, rfl, drafted.user.symm, drafted.sole⟩

theorem IsDraft.not_passable (isDraft : files.IsDraft entry node) :
    ¬ (node.isDirectory = true ∨ node.IsLink) :=
  FileNode.IsFile.not_passable isDraft.isFile

theorem Drafted.keeps (drafted : Drafted files after entry inode content) :
    Keeps files after :=
  keeps_of_others (fun node found => (drafted.leaf node found).not_passable) drafted.others

/-! ### Opening and writing -/

theorem drafted_of_create (vacant : files.node? entry = none) :
    Drafted files ((files.create entry (.file []) Privacy.peerFile.limit).hold files.freshInode)
      entry files.freshInode [] where
  leaf := fun _ found => nomatch vacant.symm.trans found
  user := rfl
  draft := by
    rw [node?_hold, create, node?_put, if_pos rfl]
    rfl
  sole := by
    intro other found atOther same
    by_contra differ
    rw [node?_hold, create, node?_put, if_neg differ] at atOther
    exact inode_ne_freshInode atOther same
  others := by
    intro other differ
    rw [node?_hold, create, node?_put, if_neg differ]

theorem drafted_of_truncate (found : files.node? entry = some node)
    (isDraft : files.IsDraft entry node) :
    Drafted files ((files.hold node.inode).modify node.inode ({ · with kind := .file [] }))
      entry node.inode [] where
  leaf := by
    intro _ again
    cases found.symm.trans again
    exact isDraft
  user := rfl
  draft := by
    rw [node?_modify, node?_hold, found, Option.map_some, if_pos rfl, draftNode,
      ← isDraft.mode, ← isDraft.owner]
  sole := (files.hold node.inode).sole_modify isDraft.sole
  others := fun _ differ => (files.hold node.inode).node?_modify_of_ne isDraft.sole differ _

-- A draft is opened, or nothing happens.
theorem openFile_cases (located : files.locateAs path true false = .ok ⟨entry, files.node? entry⟩)
    (allowed : ∀ node, files.node? entry = some node →
      node.isDirectory = true ∨ files.IsDraft entry node) :
    (∃ inode after, files.openFile path true Privacy.peerFile.limit = (.ok inode, after) ∧
        Drafted files after entry inode []) ∨
      ∃ fault, files.openFile path true Privacy.peerFile.limit = (.error fault, files) := by
  rcases outcome : files.openFile path true Privacy.peerFile.limit with ⟨fault | inode, after⟩
  · rw [eq_of_openFile_error outcome]
    exact .inr ⟨fault, rfl⟩
  · obtain ⟨place, again, -, opens⟩ := opens_of_openFile outcome
    cases located.symm.trans again
    refine .inl ⟨inode, after, rfl, ?_⟩
    generalize isThere : files.node? entry = found at opens
    cases opens with
    | created => exact drafted_of_create isThere
    | emptied _ isFile =>
      have noDirectory := fun isDirectory => isFile.not_passable (.inl isDirectory)
      exact drafted_of_truncate isThere ((allowed _ isThere).resolve_left noDirectory)
    | opened _ kept noDirectory =>
      have isDraft := (allowed _ isThere).resolve_left (by simp [noDirectory])
      exact absurd isDraft.isFile (kept rfl)

theorem Drafted.write (drafted : Drafted files after entry inode content) (bytes : Bytes) :
    Drafted files (after.modify inode (writeNode .start bytes)) entry inode
      (written .start bytes content) where
  leaf := drafted.leaf
  user := drafted.user
  draft := by
    rw [node?_modify, drafted.draft, Option.map_some]
    exact congrArg some (if_pos rfl)
  sole := sole_modify drafted.sole
  others := fun other differ =>
    (node?_modify_of_ne drafted.sole differ _).trans (drafted.others other differ)

theorem Drafted.congr {later : FileSystem} (drafted : Drafted files after entry inode content)
    (sameUser : later.user = after.user)
    (sameNodes : ∀ location, later.node? location = after.node? location) :
    Drafted files later entry inode content where
  leaf := drafted.leaf
  user := sameUser.trans drafted.user
  draft := (sameNodes entry).trans drafted.draft
  sole := fun other found atOther => drafted.sole other found ((sameNodes other).symm.trans atOther)
  others := fun other differ => (sameNodes other).trans (drafted.others other differ)

/-! ### Renaming -/

/-- The draft has taken the place of a file. -/
structure Published (files after : FileSystem) (entry target : Location) (inode : Nat)
    (content : Bytes) : Prop where
  leaf : ∀ node, files.node? entry = some node → files.IsDraft entry node
  user : after.user = files.user
  isThere : after.node? target = some (files.draftNode inode content)
  gone : after.node? entry = none
  noDirectory : ∀ node, files.node? target = some node → node.isDirectory = false
  others : ∀ other, other ≠ entry → other ≠ target → after.node? other = files.node? other

theorem Published.keeps (published : Published files after entry target inode content)
    (noLink : ∀ node, files.node? target = some node → ¬ node.IsLink) : Keeps files after := by
  intro other node found passable
  have notEntry : other ≠ entry := by
    rintro rfl
    exact (published.leaf node found).not_passable passable
  have notTarget : other ≠ target := by
    rintro rfl
    rcases passable with isDirectory | isLink
    · exact absurd isDirectory (by simp [published.noDirectory node found])
    · exact noLink node found isLink
  exact ⟨node, (published.others other notEntry notTarget).trans found, rfl, id⟩

theorem Published.congr {later : FileSystem}
    (published : Published files after entry target inode content)
    (sameUser : later.user = after.user)
    (sameNodes : ∀ location, later.node? location = after.node? location) :
    Published files later entry target inode content where
  leaf := published.leaf
  user := sameUser.trans published.user
  isThere := (sameNodes target).trans published.isThere
  gone := (sameNodes entry).trans published.gone
  noDirectory := published.noDirectory
  others := fun other notEntry notTarget =>
    (sameNodes other).trans (published.others other notEntry notTarget)

theorem Drafted.published {later : FileSystem}
    (drafted : Drafted files after entry inode content) (differ : target ≠ entry)
    (renames : Renames after entry (files.draftNode inode content) ⟨target, after.node? target⟩
      later) : Published files later entry target inode content := by
  have same : after.node? target = files.node? target := drafted.others target differ
  cases renames with
  | same found sameInode =>
    -- Two names of one file would make the renaming do nothing, but the draft has one name.
    exact absurd (drafted.sole target _ found sameInode) differ
  | moved other =>
    exact
      { leaf := drafted.leaf
        user := drafted.user
        isThere := by rw [node?_put, if_pos rfl]
        gone := by rw [node?_put, if_neg differ.symm, node?_erase, if_pos rfl]
        noDirectory := fun old found => (other old (same.trans found)).2
        others := fun place notEntry notTarget => by
          rw [node?_put, if_neg notTarget, node?_erase, if_neg notEntry,
            drafted.others place notEntry] }

-- A draft gets the name of the file that it replaces, or nothing happens.
theorem Drafted.rename {source goal : Path} (drafted : Drafted files after entry inode content)
    (differ : target ≠ entry)
    (atSource : after.locateEntry source = .ok ⟨entry, after.node? entry⟩)
    (atGoal : ∀ place, after.locateEntry goal = .ok place →
      place = ⟨target, after.node? target⟩) :
    (∃ later, after.rename source goal = (.ok (), later) ∧
        (∃ place, after.locateEntry goal = .ok place) ∧
        Published files later entry target inode content) ∨
      ∃ fault, after.rename source goal = (.error fault, after) := by
  rcases outcome : after.rename source goal with ⟨fault | _, later⟩
  · rw [eq_of_rename_error outcome]
    exact .inr ⟨fault, rfl⟩
  · obtain ⟨origin, node, place, found, isNode, -, there, renames⟩ := renames_of_rename outcome
    cases atSource.symm.trans found
    cases drafted.draft.symm.trans isNode
    obtain rfl := atGoal place there
    exact .inl ⟨later, rfl, ⟨_, there⟩, drafted.published differ renames⟩

end TunnelBroker.FileSystem
