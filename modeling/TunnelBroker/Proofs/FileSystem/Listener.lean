import TunnelBroker.Proofs.FileSystem.Entry

/-!
Sockets that somebody listens on. Main statements: listening gives a new socket to a path that
led nowhere, and the path leads to that socket until somebody removes it.
-/

set_option autoImplicit false

namespace TunnelBroker

/-- A call that neither takes nor closes a socket. -/
def FileCall.Prepares : FileCall → Prop
  | .listen _ => False
  | .close _ => False
  | _ => True

namespace FileSystem

variable {files after : FileSystem} {path : Path} {entry : Location} {node : FileNode}

/-- Whoever listens on a path has the only socket with its number, and may remove it. -/
structure Listens (files : FileSystem) (path : Path) (entry : Location) (node : FileNode) :
    Prop where
  address : addressFault? path = none
  isEntry : path.endsInSlash = false
  reaches : files.Reaches path entry
  changeable : files.isChangeable entry = true
  found : files.node? entry = some node
  isSocket : node.kind = .socket
  owner : node.owner = files.user
  isWritable : node.isWritable = true
  held : node.inode ∈ files.held
  sole : ∀ other found, files.node? other = some found → found.inode = node.inode → other = entry

theorem isChangeable_congr
    (same : after.node? entry.dropLast = files.node? entry.dropLast) :
    after.isChangeable entry = files.isChangeable entry := by
  unfold isChangeable
  rw [same]

theorem Reaches.dropLast_ne (reaches : files.Reaches path entry) : entry.dropLast ≠ entry := by
  obtain ⟨-, front, name, -, leads, -⟩ := reaches
  intro same
  simpa using congrArg List.length same

-- No way leads through a socket, so all of them stay when it is removed.
theorem keeps_erase (found : files.node? entry = some node) (isSocket : node.kind = .socket) :
    Keeps files (files.erase entry) := by
  apply keeps_of_others
  · intro other isThere
    cases found.symm.trans isThere
    exact FileNode.not_passable_of_isSocket isSocket
  · intro other differ
    rw [node?_erase, if_neg differ]

theorem Reaches.find_erase (reaches : files.Reaches path entry)
    (isEntry : path.endsInSlash = false) (found : files.node? entry = some node)
    (isSocket : node.kind = .socket) (follows : Bool) :
    (files.erase entry).find path follows = .error .notFound := by
  apply (reaches.keeps (keeps_erase found isSocket)).find_of_none isEntry
  rw [node?_erase, if_pos rfl]

-- A new socket has a number that nothing else had, whether it was in a place or open.
theorem listens_of_listen {number : Nat} (listened : files.listen path = (.ok number, after))
    (here : path.bytes ≠ []) :
    number ∉ files.held ∧ ∃ entry node, after.Listens path entry node ∧ node.inode = number ∧
      files.node? entry = none ∧
      ∀ other, other ≠ entry → after.node? other = files.node? other := by
  unfold listen at listened
  split at listened
  · cases listened
  · next address =>
    simp only [List.isEmpty_iff, here, if_false] at listened
    cases vacant : files.vacancy path .addressInUse with
    | error fault => simp [vacant] at listened
    | ok entry =>
      simp only [vacant] at listened
      split at listened
      · cases listened
      · next isEntry =>
        cases listened
        obtain ⟨located, changeable⟩ := vacancy_eq_ok vacant
        have nothing := node?_of_locateEntry located
        have reaches := reaches_of_locateEntry located
        have unused := files.not_isUsed_freshInode
        rw [isUsed, Bool.or_eq_false_iff] at unused
        have others (other : Location) (differ : other ≠ entry) :
            ((files.create entry .socket 0o777).hold files.freshInode).node? other =
              files.node? other := by
          rw [node?_hold, create, node?_put, if_neg differ]
        refine ⟨by simpa using unused.1, entry,
          ⟨files.freshInode, .socket, 0o777 &&& 0o7755, files.user⟩, ?_, rfl, nothing, others⟩
        exact {
          address
          isEntry := by simpa using isEntry
          reaches := reaches.keeps (keeps_create nothing .socket 0o777)
          changeable := (isChangeable_congr (others _ reaches.dropLast_ne)).trans changeable
          found := by rw [node?_hold, create, node?_put, if_pos rfl]
          isSocket := rfl
          owner := rfl
          isWritable := by simp [FileNode.isWritable, FileNode.ownerBits]
          held := List.mem_cons_self
          sole := by
            intro other found atOther same
            by_contra differ
            rw [others other differ] at atOther
            exact inode_ne_freshInode atOther same }

namespace Listens

theorem find (listens : files.Listens path entry node) (follows : Bool) :
    files.find path follows = .ok node := by
  apply listens.reaches.find_of_some listens.isEntry listens.found
  rintro ⟨target, isLink⟩
  cases listens.isSocket.symm.trans isLink

theorem listener (listens : files.Listens path entry node) :
    files.listener path = .ok node.inode := by
  have isSocket : node.isSocket = true := decide_eq_true listens.isSocket
  have here := nonempty_of_sound listens.reaches.sound
  simp [FileSystem.listener, listens.address, here, listens.find, listens.isWritable, isSocket,
    listens.held]

-- No way leads through a socket.
theorem keeps (listens : files.Listens path entry node)
    (others : ∀ other, other ≠ entry → after.node? other = files.node? other) :
    Keeps files after := by
  refine keeps_of_others (fun found atEntry => ?_) others
  cases listens.found.symm.trans atEntry
  exact FileNode.not_passable_of_isSocket listens.isSocket

theorem close (listens : files.Listens path entry node) {number : Nat}
    (differ : number ≠ node.inode) : (files.close number).Listens path entry node where
  address := listens.address
  isEntry := listens.isEntry
  reaches := listens.reaches.keeps (.refl files)
  changeable := listens.changeable
  found := listens.found
  isSocket := listens.isSocket
  owner := listens.owner
  isWritable := listens.isWritable
  held := (List.mem_erase_of_ne differ.symm).2 listens.held
  sole := listens.sole

-- Who may use a socket can be changed, as long as its owner may.
theorem setMode (listens : files.Listens path entry node) {mode : Nat}
    (isWritable : ({ node with mode := mode % 0o10000 }).isWritable = true) :
    (files.setMode path mode).1 = .ok () ∧
      (files.setMode path mode).2.Listens path entry { node with mode := mode % 0o10000 } := by
  have others (other : Location) (differ : other ≠ entry) :
      (files.modify node.inode ({ · with mode := mode % 0o10000 })).node? other =
        files.node? other :=
    node?_modify_of_ne listens.sole differ _
  unfold FileSystem.setMode
  rw [listens.find]
  dsimp only
  rw [if_pos listens.owner]
  refine ⟨rfl, ?_⟩
  exact {
    address := listens.address
    isEntry := listens.isEntry
    reaches := listens.reaches.keeps (listens.keeps others)
    changeable :=
      (isChangeable_congr (others _ listens.reaches.dropLast_ne)).trans listens.changeable
    found := by rw [node?_modify, listens.found, Option.map_some, if_pos rfl]
    isSocket := listens.isSocket
    owner := listens.owner
    isWritable
    held := listens.held
    sole := sole_modify listens.sole }

theorem unlink_eq (listens : files.Listens path entry node) :
    files.unlink path = (.ok (), files.erase entry) := by
  have noDirectory : node.isDirectory = false := by
    simp [FileNode.isDirectory, listens.isSocket]
  simp [FileSystem.unlink, listens.reaches.locateEntry, listens.found, noDirectory,
    listens.isEntry, listens.changeable]

-- Whoever removes the socket leaves nothing under its path.
theorem unlink (listens : files.Listens path entry node) (follows : Bool) :
    (files.unlink path).2.find path follows = .error .notFound := by
  rw [listens.unlink_eq]
  exact listens.reaches.find_erase listens.isEntry listens.found listens.isSocket follows

end Listens

/-! ### What stays open -/

theorem held_makeDirectory (path : Path) : files.held ⊆ (files.makeDirectory path).2.held := by
  unfold makeDirectory
  split <;> exact List.Subset.refl _

theorem held_setMode (path : Path) (mode : Nat) :
    files.held ⊆ (files.setMode path mode).2.held := by
  unfold setMode
  split
  · exact List.Subset.refl _
  · split <;> exact List.Subset.refl _

theorem held_openNode (node : FileNode) (truncates : Bool) :
    files.held ⊆ (openNode node truncates files).2.held := by
  unfold openNode
  split
  · exact List.Subset.refl _
  · split
    · exact List.Subset.refl _
    · split
      · exact List.Subset.refl _
      · dsimp only
        split <;> exact List.subset_cons_self ..
      · exact List.subset_cons_self ..

theorem held_openFile (path : Path) (truncates : Bool) (mode : Nat) :
    files.held ⊆ (files.openFile path truncates mode).2.held := by
  unfold openFile
  split
  · exact List.Subset.refl _
  · split
    · exact List.Subset.refl _
    · split
      · exact held_openNode ..
      · split
        · exact List.subset_cons_self ..
        · exact List.Subset.refl _

theorem held_rename (source target : Path) :
    files.held ⊆ (files.rename source target).2.held := by
  unfold rename replace
  repeat' split
  all_goals exact List.Subset.refl _

theorem held_unlink (path : Path) : files.held ⊆ (files.unlink path).2.held := by
  unfold unlink
  repeat' split
  all_goals exact List.Subset.refl _

-- What is open stays open until it is closed.
theorem held_react {call : FileCall} (prepares : call.Prepares) :
    files.held ⊆ (files.react call).2.held := by
  cases call with
  | user => exact List.Subset.refl _
  | status path follows => exact List.Subset.refl _
  | makeDirectory path => exact held_makeDirectory path
  | setMode path mode => exact held_setMode path mode
  | openFile path truncates mode => exact held_openFile path truncates mode
  | write inode position bytes => exact List.Subset.refl _
  | sync inode => exact List.Subset.refl _
  | rename source target => exact held_rename source target
  | unlink path => exact held_unlink path
  | contentOf path => exact List.Subset.refl _
  | listen path => exact prepares.elim
  | close inode => exact prepares.elim

end FileSystem

end TunnelBroker
