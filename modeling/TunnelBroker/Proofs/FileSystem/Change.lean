import TunnelBroker.FileSystem.Call
import Mathlib.Data.List.Perm.Subperm

/-!
What changes to a file system do to its nodes. Each change is told by the nodes that are
found afterwards, so that the list of nodes need not be looked at again.
-/

set_option autoImplicit false

namespace TunnelBroker.FileSystem

variable {files : FileSystem}

@[simp]
theorem node?_hold (inode : Nat) (location : Location) :
    (files.hold inode).node? location = files.node? location := rfl

@[simp]
theorem node?_close (inode : Nat) (location : Location) :
    (files.close inode).node? location = files.node? location := rfl

@[simp]
theorem user_close (inode : Nat) : (files.close inode).user = files.user := rfl

@[simp]
theorem node?_erase (location other : Location) :
    (files.erase location).node? other =
      if other = location then none else files.node? other := by
  unfold erase node?
  dsimp only
  induction files.nodes with
  | nil => simp
  | cons entry nodes ih =>
    obtain ⟨place, node⟩ := entry
    by_cases gone : place = location
    · subst gone
      by_cases same : other = place
      · simpa [same] using ih
      · simpa [same, List.lookup_cons, beq_eq_false_iff_ne.2 same] using ih
    · rw [List.filter_cons_of_pos (by simpa using gone), List.lookup_cons, List.lookup_cons, ih]
      by_cases same : other = place
      · subst same
        simp [gone]
      · simp [beq_eq_false_iff_ne.2 same]

@[simp]
theorem node?_put (location other : Location) (node : FileNode) :
    (files.put location node).node? other =
      if other = location then some node else files.node? other := by
  have others := files.node?_erase location other
  unfold node? at others
  unfold put node?
  rw [List.lookup_cons, others]
  by_cases same : other = location
  · simp [same]
  · simp [same, beq_eq_false_iff_ne.2 same]

@[simp]
theorem node?_modify (inode : Nat) (change : FileNode → FileNode) (location : Location) :
    (files.modify inode change).node? location =
      (files.node? location).map fun node =>
        if node.inode = inode then change node else node := by
  unfold modify node?
  dsimp only
  induction files.nodes with
  | nil => rfl
  | cons entry nodes ih =>
    rw [List.map_cons, List.lookup_cons, List.lookup_cons, ih]
    cases location == entry.1 <;> rfl

-- A change of the only node with its number changes nothing elsewhere.
theorem node?_modify_of_ne {inode : Nat} {entry other : Location}
    (sole : ∀ place node, files.node? place = some node → node.inode = inode → place = entry)
    (differ : other ≠ entry) (change : FileNode → FileNode) :
    (files.modify inode change).node? other = files.node? other := by
  rw [node?_modify]
  cases found : files.node? other with
  | none => rfl
  | some node =>
    have otherInode : node.inode ≠ inode := fun same => differ (sole other node found same)
    rw [Option.map_some, if_neg otherInode]

theorem sole_modify {inode : Nat} {entry : Location}
    (sole : ∀ place node, files.node? place = some node → node.inode = inode → place = entry)
    {change : FileNode → FileNode} (place : Location) (node : FileNode)
    (found : (files.modify inode change).node? place = some node) (same : node.inode = inode) :
    place = entry := by
  rw [node?_modify, Option.map_eq_some_iff] at found
  obtain ⟨before, found, rfl⟩ := found
  apply sole place before found
  split at same
  · assumption
  · exact same

-- What is written to an empty file is all that it holds.
theorem written_nil (bytes : Bytes) : written .start bytes [] = bytes := by
  simp [written]

theorem mem_of_node? {location : Location} {node : FileNode}
    (found : files.node? location = some node) : (location, node) ∈ files.nodes := by
  obtain ⟨earlier, later, all, -⟩ := List.lookup_eq_some_iff.1 found
  rw [all]
  exact List.mem_append_right _ List.mem_cons_self

/-! ### New nodes -/

theorem not_isUsed_freshInode (files : FileSystem) : files.isUsed files.freshInode = false := by
  unfold freshInode
  cases choice : (List.range (files.held.length + files.nodes.length + 1)).find?
      (!files.isUsed ·) with
  | some inode => simpa using List.find?_some choice
  | none =>
    -- There are more numbers to choose from than nodes, so some number is left.
    have used : List.range (files.held.length + files.nodes.length + 1) ⊆
        files.held ++ files.nodes.map (·.2.inode) := by
      intro inode bounded
      have taken := List.find?_eq_none.1 choice inode bounded
      simp only [isUsed, Bool.not_eq_true', Bool.not_eq_false, Bool.or_eq_true,
        List.contains_iff_mem, List.any_eq_true, beq_iff_eq] at taken
      rw [List.mem_append, List.mem_map]
      rcases taken with held | ⟨entry, member, same⟩
      · exact .inl held
      · exact .inr ⟨entry, member, same⟩
    have short := (List.subperm_of_subset List.nodup_range used).length_le
    simp only [List.length_range, List.length_append, List.length_map] at short
    omega

theorem inode_ne_freshInode {location : Location} {node : FileNode}
    (found : files.node? location = some node) : node.inode ≠ files.freshInode := by
  intro same
  have unused := files.not_isUsed_freshInode
  rw [isUsed, Bool.or_eq_false_iff, List.any_eq_false] at unused
  exact unused.2 _ (mem_of_node? found) (by simpa using same)

end TunnelBroker.FileSystem
