import TunnelBroker.FileSystem.Call
import TunnelBroker.Proofs.FileSystem.Way

/-!
What calls that change files have done, told from their answers. Main statements: opening a
file and renaming it do nothing unless they succeed, and then there are few things that they
can have done.
-/

set_option autoImplicit false

namespace TunnelBroker.FileSystem

variable {files after : FileSystem} {path source goal : Path} {mode inode : Nat}
  {fault : FileFault}

/-- What opening the file at a place does, if it succeeds. -/
inductive Opens (files : FileSystem) (truncates : Bool) (mode : Nat) :
    Place → Nat → FileSystem → Prop where
  | created (location : Location) :
    Opens files truncates mode ⟨location, none⟩ files.freshInode
      ((files.create location (.file []) mode).hold files.freshInode)
  | emptied (location : Location) {node : FileNode} (isFile : node.IsFile) :
    Opens files truncates mode ⟨location, some node⟩ node.inode
      ((files.hold node.inode).modify node.inode ({ · with kind := .file [] }))
  | opened (location : Location) {node : FileNode} (kept : truncates = true → ¬ node.IsFile)
    (noDirectory : node.isDirectory = false) :
    Opens files truncates mode ⟨location, some node⟩ node.inode (files.hold node.inode)

theorem opens_of_openNode {node : FileNode} {truncates : Bool} (location : Location)
    (opened : openNode node truncates files = (.ok inode, after)) :
    Opens files truncates mode ⟨location, some node⟩ inode after := by
  unfold openNode at opened
  split at opened
  · cases opened
  · next noDirectory =>
    have noDirectory : node.isDirectory = false := by simpa using noDirectory
    split at opened
    · cases opened
    · split at opened
      · cases opened
      · next content isFile =>
        cases truncates <;> cases opened
        · exact .opened location (Bool.noConfusion ·) noDirectory
        · exact .emptied location ⟨content, isFile⟩
      · next noFile =>
        cases opened
        exact .opened location (fun _ ⟨content, isFile⟩ => noFile content isFile) noDirectory

theorem opens_of_openFile {truncates : Bool}
    (opened : files.openFile path truncates mode = (.ok inode, after)) :
    ∃ place, files.locateAs path true false = .ok place ∧ path.endsInSlash = false ∧
      Opens files truncates mode place inode after := by
  unfold openFile at opened
  split at opened
  · cases opened
  · next place located =>
    refine ⟨place, located, ?_⟩
    obtain ⟨location, node⟩ := place
    split at opened
    · cases opened
    · next isEntry =>
      refine ⟨by simpa using isEntry, ?_⟩
      cases node with
      | some node => exact opens_of_openNode location opened
      | none =>
        dsimp only at opened
        split at opened
        · cases opened
          exact .created location
        · cases opened

theorem eq_of_openNode_error {node : FileNode} {truncates : Bool}
    (refused : openNode node truncates files = (.error fault, after)) : after = files := by
  unfold openNode at refused
  split at refused
  · cases refused
    rfl
  · split at refused
    · cases refused
      rfl
    · split at refused <;> cases refused
      rfl

theorem eq_of_openFile_error {truncates : Bool}
    (refused : files.openFile path truncates mode = (.error fault, after)) : after = files := by
  unfold openFile at refused
  split at refused
  · cases refused
    rfl
  · split at refused
    · cases refused
      rfl
    · split at refused
      · exact eq_of_openNode_error refused
      · split at refused <;> cases refused
        rfl

/-! ### Renaming -/

/-- What giving a file the name of another does, if it succeeds: one of two names goes. -/
inductive Renames (files : FileSystem) (source : Location) (node : FileNode) :
    Place → FileSystem → Prop where
  | moved {target : Place}
    (other : ∀ old, target.node = some old → old.inode ≠ node.inode ∧ old.isDirectory = false) :
    Renames files source node target ((files.erase source).put target.location node)
  /-- Two names of one file stay what they are. -/
  | same {target : Place} {old : FileNode} (found : target.node = some old)
    (sameInode : old.inode = node.inode) : Renames files source node target files

theorem renames_of_replace {source : Location} {node : FileNode} {target : Place}
    (replaced : replace source node target files = (.ok (), after)) :
    Renames files source node target after := by
  unfold replace at replaced
  split at replaced
  · next missing =>
    split at replaced
    · cases replaced
      refine .moved fun old found => ?_
      cases missing.symm.trans found
    · cases replaced
  · next old found =>
    split at replaced
    · next sameInode =>
      cases replaced
      exact .same found sameInode
    · next differ =>
      split at replaced
      · cases replaced
      · split at replaced
        · cases replaced
        · next noDirectory =>
          cases replaced
          refine .moved fun again foundAgain => ?_
          cases found.symm.trans foundAgain
          exact ⟨differ, by simpa using noDirectory⟩

theorem eq_of_replace_error {source : Location} {node : FileNode} {target : Place}
    (refused : replace source node target files = (.error fault, after)) : after = files := by
  unfold replace at refused
  split at refused
  · split at refused <;> cases refused
    rfl
  · split at refused
    · cases refused
    · split at refused
      · cases refused
        rfl
      · split at refused <;> cases refused
        rfl

theorem renames_of_rename (renamed : files.rename source goal = (.ok (), after)) :
    ∃ origin node target, files.locateEntry source = .ok origin ∧ origin.node = some node ∧
      node.isDirectory = false ∧ files.locateEntry goal = .ok target ∧
      Renames files origin.location node target after := by
  unfold rename at renamed
  split at renamed
  · cases renamed
  · cases renamed
  · next origin target atSource atGoal =>
    split at renamed
    · cases renamed
    · next node found =>
      split at renamed
      · cases renamed
      · next noDirectory =>
        split at renamed
        · cases renamed
        · split at renamed
          · cases renamed
          · exact ⟨origin, node, target, atSource, found, by simpa using noDirectory, atGoal,
              renames_of_replace renamed⟩

theorem eq_of_rename_error (refused : files.rename source goal = (.error fault, after)) :
    after = files := by
  unfold rename at refused
  split at refused
  · cases refused
    rfl
  · cases refused
    rfl
  · split at refused
    · cases refused
      rfl
    · split at refused
      · cases refused
        rfl
      · split at refused
        · cases refused
          rfl
        · split at refused
          · cases refused
            rfl
          · exact eq_of_replace_error refused

end TunnelBroker.FileSystem
