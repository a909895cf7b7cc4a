import TunnelBroker.Proofs.FileSystem.Directory
import TunnelBroker.Proofs.FileSystem.Mishap
import TunnelBroker.Proofs.FileSystem.Outcome

/-!
Names of nodes. A node may have several names, and what its number says is the same under
each of them. Main statement: no call, not even one that goes wrong, tears a node apart.
-/

set_option autoImplicit false

namespace TunnelBroker.FileSystem

variable {files after : FileSystem} {inode : Nat} {location : Location} {node : FileNode}

/-- What has one number is one node. -/
def IsCoherent (files : FileSystem) : Prop :=
  ∀ location other node found, files.node? location = some node →
    files.node? other = some found → found.inode = node.inode → found = node

theorem isCoherent_of_mem (alike : ∀ entry ∈ files.nodes, ∀ other ∈ files.nodes,
    other.2.inode = entry.2.inode → other.2 = entry.2) : files.IsCoherent :=
  fun _ _ _ _ isThere isThereToo => alike _ (mem_of_node? isThere) _ (mem_of_node? isThereToo)

-- Giving names to nodes that are there, or taking names away, leaves the nodes whole.
theorem IsCoherent.of_nodes (coherent : files.IsCoherent)
    (known : ∀ location node, after.node? location = some node →
      ∃ earlier, files.node? earlier = some node) : after.IsCoherent := by
  intro location other node found atLocation atOther same
  obtain ⟨before, isThere⟩ := known location node atLocation
  obtain ⟨otherBefore, isThereToo⟩ := known other found atOther
  exact coherent before otherBefore node found isThere isThereToo same

theorem IsCoherent.hold (coherent : files.IsCoherent) (inode : Nat) :
    (files.hold inode).IsCoherent :=
  coherent.of_nodes fun location _ found => ⟨location, found⟩

theorem IsCoherent.close (coherent : files.IsCoherent) (inode : Nat) :
    (files.close inode).IsCoherent :=
  coherent.of_nodes fun location _ found => ⟨location, found⟩

theorem node?_of_erase {other : Location} (found : (files.erase location).node? other = some node) :
    files.node? other = some node := by
  rw [node?_erase] at found
  split at found
  · cases found
  · exact found

theorem IsCoherent.erase (coherent : files.IsCoherent) (location : Location) :
    (files.erase location).IsCoherent :=
  coherent.of_nodes fun other _ found => ⟨other, node?_of_erase found⟩

theorem IsCoherent.move (coherent : files.IsCoherent) {source : Location}
    (isThere : files.node? source = some node) (target : Location) :
    ((files.erase source).put target node).IsCoherent := by
  refine coherent.of_nodes fun other found atOther => ?_
  rw [node?_put] at atOther
  split at atOther
  · cases atOther
    exact ⟨source, isThere⟩
  · exact ⟨other, node?_of_erase atOther⟩

theorem IsCoherent.create (coherent : files.IsCoherent) (location : Location) (kind : FileKind)
    (mode : Nat) : (files.create location kind mode).IsCoherent := by
  intro first second node found atFirst atSecond same
  rw [FileSystem.create, node?_put] at atFirst atSecond
  -- The new node has a number of its own.
  split at atFirst <;> split at atSecond
  · exact (Option.some.inj atSecond).symm.trans (Option.some.inj atFirst)
  · cases atFirst
    exact absurd same (inode_ne_freshInode atSecond)
  · cases atSecond
    exact absurd same.symm (inode_ne_freshInode atFirst)
  · exact coherent first second node found atFirst atSecond same

theorem IsCoherent.modify (coherent : files.IsCoherent) (inode : Nat)
    {change : FileNode → FileNode} (keepsNumber : ∀ node, (change node).inode = node.inode) :
    (files.modify inode change).IsCoherent := by
  intro first second node found atFirst atSecond same
  rw [node?_modify, Option.map_eq_some_iff] at atFirst atSecond
  obtain ⟨before, isThere, rfl⟩ := atFirst
  obtain ⟨other, isThereToo, rfl⟩ := atSecond
  have number (node : FileNode) :
      (if node.inode = inode then change node else node).inode = node.inode := by
    split
    · exact keepsNumber node
    · rfl
  rw [number, number] at same
  rw [coherent first second before other isThere isThereToo same]

@[simp]
theorem inode_writeNode (position : WritePosition) (bytes : Bytes) (node : FileNode) :
    (writeNode position bytes node).inode = node.inode := by
  unfold writeNode
  split <;> rfl

/-! ### Calls -/

variable {path source goal : Path}

theorem IsCoherent.write (coherent : files.IsCoherent) (inode : Nat) (position : WritePosition)
    (bytes : Bytes) : (files.write inode position bytes).2.IsCoherent :=
  coherent.modify inode (inode_writeNode position bytes)

theorem IsCoherent.makeDirectory (coherent : files.IsCoherent) (path : Path) :
    (files.makeDirectory path).2.IsCoherent := by
  unfold FileSystem.makeDirectory
  split
  · exact coherent
  · exact coherent.create _ _ _

theorem IsCoherent.setMode (coherent : files.IsCoherent) (path : Path) (mode : Nat) :
    (files.setMode path mode).2.IsCoherent := by
  unfold FileSystem.setMode
  split
  · exact coherent
  · split
    · exact coherent.modify _ fun _ => rfl
    · exact coherent

theorem IsCoherent.opens {truncates : Bool} {mode : Nat} {place : Place}
    (coherent : files.IsCoherent) (opens : Opens files truncates mode place inode after) :
    after.IsCoherent := by
  cases opens with
  | created location => exact (coherent.create _ _ _).hold _
  | emptied location _ => exact (coherent.hold _).modify _ fun _ => rfl
  | opened location _ _ => exact coherent.hold _

theorem IsCoherent.openFile (coherent : files.IsCoherent) (path : Path) (truncates : Bool)
    (mode : Nat) : (files.openFile path truncates mode).2.IsCoherent := by
  rcases outcome : files.openFile path truncates mode with ⟨fault | inode, after⟩
  · rw [eq_of_openFile_error outcome]
    exact coherent
  · obtain ⟨place, -, -, opens⟩ := opens_of_openFile outcome
    exact coherent.opens opens

theorem IsCoherent.rename (coherent : files.IsCoherent) (source goal : Path) :
    (files.rename source goal).2.IsCoherent := by
  rcases outcome : files.rename source goal with ⟨fault | _, after⟩
  · rw [eq_of_rename_error outcome]
    exact coherent
  · obtain ⟨origin, node, target, atSource, found, -, -, renames⟩ := renames_of_rename outcome
    have isThere := (node_of_locateAs atSource).symm.trans found
    cases renames with
    | moved _ => exact coherent.move isThere _
    | same _ _ => exact coherent

theorem IsCoherent.unlink (coherent : files.IsCoherent) (path : Path) :
    (files.unlink path).2.IsCoherent := by
  unfold FileSystem.unlink
  repeat' split
  all_goals first | exact coherent | exact coherent.erase _

theorem IsCoherent.listen (coherent : files.IsCoherent) (path : Path) :
    (files.listen path).2.IsCoherent := by
  unfold FileSystem.listen
  repeat' split
  all_goals first | exact coherent | exact coherent.hold _ | exact (coherent.create _ _ _).hold _

/-- Whatever is asked of a coherent file system, it stays coherent. -/
theorem IsCoherent.react (coherent : files.IsCoherent) (call : FileCall) :
    (files.react call).2.IsCoherent := by
  cases call with
  | user => exact coherent
  | status path follows => exact coherent
  | makeDirectory path => exact coherent.makeDirectory path
  | setMode path mode => exact coherent.setMode path mode
  | openFile path truncates mode => exact coherent.openFile path truncates mode
  | write inode position bytes => exact coherent.write inode position bytes
  | sync inode => exact coherent
  | rename source target => exact coherent.rename source target
  | unlink path => exact coherent.unlink path
  | contentOf path => exact coherent
  | listen path => exact coherent.listen path
  | close inode => exact coherent.close inode

theorem IsCoherent.fail (coherent : files.IsCoherent) (mishap : Mishap) (call : FileCall) :
    (files.fail mishap call).2.IsCoherent := by
  cases call with
  | write inode position bytes => exact coherent.write inode position _
  | close inode => exact coherent.close inode
  | _ => exact coherent

/-- A coherent file system stays coherent, whatever programs do to it and however they fail. -/
theorem IsCoherent.run {α : Type} (coherent : files.IsCoherent) (mishaps : Nat → Option Mishap)
    (number : Nat) (task : FileTask α) :
    (task.run (falter mishaps) (files, number)).2.1.IsCoherent := by
  induction task generalizing files number with
  | done value => exact coherent
  | ask call next ih =>
    rw [Interaction.run_ask]
    cases outcome : mishaps number with
    | none =>
      rw [falter_of_none outcome]
      exact ih _ (coherent.react call) _
    | some mishap =>
      rw [falter_of_some outcome]
      exact ih _ (coherent.fail mishap call) _

end TunnelBroker.FileSystem
