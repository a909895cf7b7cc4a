import TunnelBroker.Proofs.FileSystem.Entry
import TunnelBroker.Proofs.FileSystem.Names

/-!
Files that are written anew and then take the place of others. A file that is written may
have been there, with any mode and under several names. Main statements: writing changes the
file under its names and nothing else, and renaming it changes two entries at most.
-/

set_option autoImplicit false

namespace TunnelBroker.FileSystem

variable {files after later : FileSystem} {entry target other : Location} {node : FileNode}

/-- The names of what is at an entry, whether there is anything or not. -/
def Shares (files : FileSystem) (entry other : Location) : Prop :=
  other = entry ∨ ∃ node found, files.node? entry = some node ∧
    files.node? other = some found ∧ found.inode = node.inode

theorem shares_of_missing (missing : files.node? entry = none)
    (shares : files.Shares entry other) : other = entry := by
  rcases shares with same | ⟨node, -, found, -⟩
  · exact same
  · cases missing.symm.trans found

theorem IsCoherent.node?_of_shares (coherent : files.IsCoherent)
    (found : files.node? entry = some node) (shares : files.Shares entry other) :
    files.node? other = some node := by
  rcases shares with rfl | ⟨again, there, foundAgain, isThere, same⟩
  · exact found
  · cases found.symm.trans foundAgain
    rw [isThere, coherent entry other node there found isThere same]

/-- Nothing has changed but for the file at an entry, which is `node` under all its names. -/
structure Rewritten (files after : FileSystem) (entry : Location) (node : FileNode) : Prop where
  user : after.user = files.user
  isFile : node.IsFile
  leaf : ∀ other old, files.Shares entry other → files.node? other = some old → old.IsFile
  names : ∀ other, files.Shares entry other → after.node? other = some node
  others : ∀ other, ¬ files.Shares entry other → after.node? other = files.node? other
  sole : ∀ other found, after.node? other = some found → found.inode = node.inode →
    files.Shares entry other

theorem Rewritten.keeps (rewritten : Rewritten files after entry node) : Keeps files after := by
  intro other old found passable
  have apart : ¬ files.Shares entry other := fun shares =>
    (rewritten.leaf other old shares found).not_passable passable
  exact ⟨old, (rewritten.others other apart).trans found, rfl, id⟩

theorem Rewritten.congr (rewritten : Rewritten files after entry node)
    (sameUser : later.user = after.user)
    (sameNodes : ∀ location, later.node? location = after.node? location) :
    Rewritten files later entry node where
  user := sameUser.trans rewritten.user
  isFile := rewritten.isFile
  leaf := rewritten.leaf
  names := fun other shares => (sameNodes other).trans (rewritten.names other shares)
  others := fun other apart => (sameNodes other).trans (rewritten.others other apart)
  sole := fun other found isThere =>
    rewritten.sole other found ((sameNodes other).symm.trans isThere)

/-! ### Opening and writing -/

-- A file that is there may count as written with what it holds.
theorem IsCoherent.rewritten (coherent : files.IsCoherent)
    (found : files.node? entry = some node) (isFile : node.IsFile) :
    Rewritten files files entry node where
  user := rfl
  isFile := isFile
  leaf := by
    intro other old shares isThere
    cases (coherent.node?_of_shares found shares).symm.trans isThere
    exact isFile
  names := fun other shares => coherent.node?_of_shares found shares
  others := fun _ _ => rfl
  sole := fun _ there isThere same => .inr ⟨node, there, found, isThere, same⟩

theorem rewritten_of_create (vacant : files.node? entry = none) (mode : Nat) :
    Rewritten files ((files.create entry (.file []) mode).hold files.freshInode) entry
      ⟨files.freshInode, .file [], mode &&& 0o7755, files.user⟩ where
  user := rfl
  isFile := ⟨[], rfl⟩
  leaf := by
    intro other old shares isThere
    cases shares_of_missing vacant shares
    cases vacant.symm.trans isThere
  names := by
    intro other shares
    cases shares_of_missing vacant shares
    rw [node?_hold, create, node?_put, if_pos rfl]
  others := by
    intro other apart
    have differ : other ≠ entry := fun same => apart (.inl same)
    rw [node?_hold, create, node?_put, if_neg differ]
  sole := by
    intro other found isThere same
    by_contra apart
    have differ : other ≠ entry := fun same => apart (.inl same)
    rw [node?_hold, create, node?_put, if_neg differ] at isThere
    exact inode_ne_freshInode isThere same

theorem Rewritten.modify (rewritten : Rewritten files after entry node)
    {change : FileNode → FileNode} (sameInode : (change node).inode = node.inode)
    (isFile : (change node).IsFile) :
    Rewritten files (after.modify node.inode change) entry (change node) where
  user := rewritten.user
  isFile := isFile
  leaf := rewritten.leaf
  names := by
    intro other shares
    rw [node?_modify, rewritten.names other shares, Option.map_some, if_pos rfl]
  others := by
    intro other apart
    rw [← rewritten.others other apart, node?_modify]
    cases isThere : after.node? other with
    | none => rfl
    | some found =>
      have differ : found.inode ≠ node.inode := fun same =>
        apart (rewritten.sole other found isThere same)
      rw [Option.map_some, if_neg differ]
  sole := by
    intro other found isThere same
    rw [node?_modify, Option.map_eq_some_iff] at isThere
    obtain ⟨before, isThere, rfl⟩ := isThere
    apply rewritten.sole other before isThere
    split at same
    · assumption
    · exact same.trans sameInode

/-- The node of the file at an entry when it is written anew. -/
def rewrittenNode (files : FileSystem) (entry : Location) (mode : Nat) (content : Bytes) :
    FileNode :=
  match files.node? entry with
  | none => ⟨files.freshInode, .file content, mode &&& 0o7755, files.user⟩
  | some node => { node with kind := .file content }

variable {mode inode : Nat} {content : Bytes}

@[simp]
theorem kind_rewrittenNode (files : FileSystem) (entry : Location) (mode : Nat)
    (content : Bytes) : (files.rewrittenNode entry mode content).kind = .file content := by
  unfold rewrittenNode
  split <;> rfl

-- The number, the mode and the owner are the same from the start on.
theorem inode_rewrittenNode (first second : Bytes) :
    (files.rewrittenNode entry mode first).inode =
      (files.rewrittenNode entry mode second).inode := by
  unfold rewrittenNode
  split <;> rfl

theorem writeNode_rewrittenNode (bytes : Bytes) :
    writeNode .start bytes (files.rewrittenNode entry mode content) =
      files.rewrittenNode entry mode (written .start bytes content) := by
  unfold rewrittenNode
  cases files.node? entry <;> rfl

theorem Opens.rewritten (coherent : files.IsCoherent)
    (opens : Opens files true mode ⟨entry, files.node? entry⟩ inode after)
    (allowed : ∀ node, files.node? entry = some node → node.IsFile) :
    inode = (files.rewrittenNode entry mode []).inode ∧
      Rewritten files after entry (files.rewrittenNode entry mode []) := by
  unfold rewrittenNode
  generalize isThere : files.node? entry = found at opens
  cases opens with
  | created => exact ⟨rfl, rewritten_of_create isThere mode⟩
  | @emptied _ node isFile =>
    have opened : Rewritten files (files.hold node.inode) entry node :=
      (coherent.rewritten isThere isFile).congr rfl fun _ => rfl
    exact ⟨rfl, opened.modify rfl ⟨[], rfl⟩⟩
  | opened _ kept _ => exact absurd (allowed _ isThere) (kept rfl)

theorem Rewritten.write
    (rewritten : Rewritten files after entry (files.rewrittenNode entry mode content))
    (bytes : Bytes) :
    Rewritten files
      (after.modify (files.rewrittenNode entry mode content).inode (writeNode .start bytes)) entry
      (files.rewrittenNode entry mode (written .start bytes content)) := by
  rw [← writeNode_rewrittenNode]
  apply rewritten.modify (inode_writeNode ..)
  rw [writeNode_rewrittenNode]
  exact ⟨_, kind_rewrittenNode ..⟩

/-! ### Renaming -/

/-- The file has left its entry, and has taken the place of another. -/
structure Replaced (files after : FileSystem) (entry target : Location) (node : FileNode) :
    Prop where
  user : after.user = files.user
  leaf : ∀ other old, files.Shares entry other → files.node? other = some old → old.IsFile
  isThere : after.node? target = some node
  gone : after.node? entry = none
  names : ∀ other found, files.Shares entry other → after.node? other = some found → found = node
  noDirectory : ∀ old, files.node? target = some old → old.isDirectory = false
  others : ∀ other, ¬ files.Shares entry other → other ≠ target →
    after.node? other = files.node? other

theorem Rewritten.replaced (rewritten : Rewritten files after entry node)
    (apart : ¬ files.Shares entry target)
    (renames : Renames after entry node ⟨target, after.node? target⟩ later) :
    Replaced files later entry target node := by
  have differ : entry ≠ target := fun same => apart (.inl same.symm)
  have same : after.node? target = files.node? target := rewritten.others target apart
  cases renames with
  | same found sameInode => exact absurd (rewritten.sole target _ found sameInode) apart
  | moved other =>
    exact
      { user := rewritten.user
        leaf := rewritten.leaf
        isThere := by rw [node?_put, if_pos rfl]
        gone := by rw [node?_put, if_neg differ, node?_erase, if_pos rfl]
        names := fun place found shares isThere => by
          have notTarget : place ≠ target := by
            rintro rfl
            exact apart shares
          rw [node?_put, if_neg notTarget, node?_erase] at isThere
          split at isThere
          · cases isThere
          · exact Option.some.inj (isThere.symm.trans (rewritten.names place shares))
        noDirectory := fun old found => (other old (same.trans found)).2
        others := fun place elsewhere notTarget => by
          have notEntry : place ≠ entry := fun same => elsewhere (.inl same)
          rw [node?_put, if_neg notTarget, node?_erase, if_neg notEntry,
            rewritten.others place elsewhere] }

theorem Replaced.congr (replaced : Replaced files after entry target node)
    (sameUser : later.user = after.user)
    (sameNodes : ∀ location, later.node? location = after.node? location) :
    Replaced files later entry target node where
  user := sameUser.trans replaced.user
  leaf := replaced.leaf
  isThere := (sameNodes target).trans replaced.isThere
  gone := (sameNodes entry).trans replaced.gone
  names := fun other found shares isThere =>
    replaced.names other found shares ((sameNodes other).symm.trans isThere)
  noDirectory := replaced.noDirectory
  others := fun other elsewhere notTarget =>
    (sameNodes other).trans (replaced.others other elsewhere notTarget)

theorem Replaced.keeps (replaced : Replaced files after entry target node)
    (noLink : ∀ old, files.node? target = some old → ¬ old.IsLink) : Keeps files after := by
  intro other old found passable
  have elsewhere : ¬ files.Shares entry other := fun shares =>
    (replaced.leaf other old shares found).not_passable passable
  have notTarget : other ≠ target := by
    rintro rfl
    rcases passable with isDirectory | isLink
    · exact absurd isDirectory (by simp [replaced.noDirectory old found])
    · exact noLink old found isLink
  exact ⟨old, (replaced.others other elsewhere notTarget).trans found, rfl, id⟩

-- No way is opened that was not there before.
theorem Replaced.keeps_before (replaced : Replaced files after entry target node)
    (isFile : node.IsFile) : Keeps after files := by
  intro other found isThere passable
  have notNode : found ≠ node := by
    rintro rfl
    exact isFile.not_passable passable
  have elsewhere : ¬ files.Shares entry other := fun shares =>
    notNode (replaced.names other found shares isThere)
  have notTarget : other ≠ target := by
    rintro rfl
    exact notNode (Option.some.inj (isThere.symm.trans replaced.isThere))
  exact ⟨found, (replaced.others other elsewhere notTarget).symm.trans isThere, rfl, id⟩

end TunnelBroker.FileSystem
