import TunnelBroker.Proofs.ControlSocket

/-!
What taking over a path leaves in the file system, where nobody else changes files, and making a
directory, setting a mode and listening may be refused. Main statement: nothing but a socket is
ever removed, a path that is taken over has a private socket in a directory that is not open to
everybody, and a takeover that fails leaves nothing but directories behind.
-/

set_option autoImplicit false

namespace TunnelBroker.ControlSocket

open FileSystem (Located Reaches Grows Ensured)

variable {files cleared after : FileSystem} {path directory : Path}

/-! ### Removing what is left -/

inductive Removes (files : FileSystem) (path : Path) :
    Except Failure Unit → FileSystem → Prop where
  | absent (missing : files.find path false = .error .notFound) :
    Removes files path (.ok ()) files
  | removed {entry : Location} {node : FileNode} (found : files.find path false = .ok node)
    (isSocket : node.kind = .socket) (reaches : files.Reaches path entry)
    (atEntry : files.node? entry = some node)
    (gone : (files.erase entry).find path false = .error .notFound) :
    Removes files path (.ok ()) (files.erase entry)
  | refused {failure : Failure} (found : files.find path false ≠ .error .notFound) :
    Removes files path (.error failure) files

theorem removes_of_unlink (tree : files.IsTree) {node : FileNode}
    (found : files.find path false = .ok node) (isSocket : node.kind = .socket)
    {removed : Except FileFault Unit} (unlinked : files.unlink path = (removed, after)) :
    removed = .ok () ∧ Removes files path (.ok ()) after ∨
      removed = .error .denied ∧ after = files := by
  have leaf : node.isDirectory = false := by simp [FileNode.isDirectory, isSocket]
  have noLink : ¬ node.IsLink := fun isLink =>
    FileNode.not_passable_of_isSocket isSocket (.inr isLink)
  obtain ⟨isEntry, entry, reaches, atEntry⟩ := tree.reaches_of_find found leaf noLink
  unfold FileSystem.unlink at unlinked
  simp only [reaches.locateEntry, atEntry, leaf, isEntry, Bool.false_eq_true, if_false] at unlinked
  split at unlinked
  · cases unlinked
    exact .inr ⟨rfl, rfl⟩
  · cases unlinked
    have gone := reaches.find_erase isEntry atEntry isSocket false
    exact .inl ⟨rfl, .removed found isSocket reaches atEntry gone⟩

theorem removes_of_remove (tree : files.IsTree) {result : Except Failure Unit}
    (ends : (remove path).CanEnd FileSystem.Answers files result after) :
    Removes files path result after := by
  obtain ⟨found, _, looked, rest⟩ := ends.of_call
  obtain ⟨rfl, rfl⟩ := FileSystem.answers_status looked
  split at rest
  · next missing =>
    obtain ⟨rfl, rfl⟩ := rest
    exact .absent missing
  · next known failed =>
    obtain ⟨rfl, rfl⟩ := rest
    exact .refused fun missing => known (by cases failed.symm.trans missing; rfl)
  · next node found =>
    split at rest
    · next isSocket =>
      obtain ⟨removed, _, removing, last⟩ := rest.of_call
      rcases removes_of_unlink tree found (of_decide_eq_true isSocket)
        (FileSystem.answers_unlink removing) with ⟨rfl, removes⟩ | ⟨rfl, rfl⟩
      · obtain ⟨rfl, rfl⟩ := last
        exact removes
      · obtain ⟨rfl, rfl⟩ := last
        exact .refused (by simp [found])
    · obtain ⟨rfl, rfl⟩ := rest
      exact .refused (by simp [found])

/-! ### The directory of a socket -/

/-- There is a directory, as it was if there was one. -/
structure Houses (files after : FileSystem) (directory : Path) : Prop where
  kept : ∀ node, files.find directory true = .ok node →
    after.find directory true = .ok node ∧ node.isDirectory = true ∧ node.isExposed = false
  -- What a path leads to that goes up may have been there, behind what was missing.
  made : ∀ fault, files.find directory true = .error fault →
    ∃ location node, Located after directory location node ∧
      node.mode = Privacy.directory.limit ∧
      (directory.goesUp = false → files.node? location = none)

/-- The directory of a path is there, if the path has one. -/
def IsHoused (files after : FileSystem) (path : Path) : Prop :=
  ∀ directory, path.parent? = some directory → directory.bytes ≠ [] →
    Houses files after directory

theorem houses_of_ensured (tree : files.IsTree) (ensured : Ensured files after directory) :
    Houses files after directory := by
  cases ensured with
  | found located guarded same =>
    subst same
    constructor
    · intro node found
      cases located.find.symm.trans found
      exact ⟨found, located.isDirectory, guarded⟩
    · intro fault missing
      cases located.find.symm.trans missing
  | made missing located mode new =>
    constructor
    · intro node found
      cases missing.symm.trans found
    · intro fault _
      exact ⟨_, _, located, mode, new tree⟩

-- Whatever else comes, a directory keeps its place.
theorem Houses.same {later : FileSystem} (houses : Houses files after directory)
    (same : ∀ location node, after.node? location = some node →
      later.node? location = some node) : Houses files later directory where
  kept := by
    intro node found
    obtain ⟨found, isDirectory, guarded⟩ := houses.kept node found
    obtain ⟨location, located⟩ := FileSystem.located_of_find found isDirectory
    exact ⟨(located.same same).find, isDirectory, guarded⟩
  made := by
    intro fault missing
    obtain ⟨location, node, located, mode, new⟩ := houses.made fault missing
    exact ⟨location, node, located.same same, mode, new⟩

theorem Removes.isTree {result : Except Failure Unit} (removes : Removes files path result after)
    (tree : files.IsTree) : after.IsTree := by
  cases removes with
  | absent missing => exact tree
  | refused found => exact tree
  | removed _ isSocket _ atEntry _ =>
    exact tree.erase atEntry (by simp [FileNode.isDirectory, isSocket])

-- A socket is removed from a directory that is there, and stays there.
theorem Removes.same_or_located {result : Except Failure Unit}
    (removes : Removes files path result after) (above : path.parent? = some directory)
    (nonempty : directory.bytes ≠ []) :
    after = files ∨ ∃ location node,
      Located files directory location node ∧ Located after directory location node := by
  cases removes with
  | absent missing => exact .inl rfl
  | refused found => exact .inl rfl
  | @removed entry socket _ isSocket reaches atEntry _ =>
    obtain ⟨location, node, located⟩ :=
      FileSystem.located_parent reaches.locateEntry above nonempty
    have differ : location ≠ entry := by
      rintro rfl
      cases atEntry.symm.trans located.found
      exact FileNode.not_passable_of_isSocket isSocket (.inl located.isDirectory)
    refine .inr ⟨location, node, located, ?_⟩
    refine located.keeps (FileSystem.keeps_erase atEntry isSocket) ?_ located.isDirectory
    rw [FileSystem.node?_erase, if_neg differ, located.found]

theorem Houses.of_removes {result : Except Failure Unit} (houses : Houses cleared after directory)
    (removes : Removes files path result cleared) (above : path.parent? = some directory)
    (nonempty : directory.bytes ≠ []) : Houses files after directory := by
  rcases removes.same_or_located above nonempty with rfl | ⟨location, node, before, still⟩
  · exact houses
  · constructor
    · intro found isThere
      cases before.find.symm.trans isThere
      exact houses.kept node still.find
    · intro fault missing
      cases before.find.symm.trans missing

/-! ### Listening -/

inductive Claims (files : FileSystem) (path : Path) :
    Except Failure ControlSocket → FileSystem → Prop where
  | taken {after : FileSystem} {socket : ControlSocket} {entry : Location} {node : FileNode}
    (listens : after.Listens path entry node) (mode : node.mode = Privacy.socket.limit)
    (place : socket.path = path) (tracked : socket.tracked = node.inode)
    (others : ∀ location, (after.erase entry).node? location = files.node? location) :
    Claims files path (.ok socket) after
  | given {after : FileSystem} {failure : Failure}
    (same : ∀ location, after.node? location = files.node? location) :
    Claims files path (.error failure) after

theorem erased_of_retreat {now : FileSystem} {entry : Location} {node : FileNode} {listener : Nat}
    {failure : Failure} {result : Except Failure ControlSocket}
    (listens : now.Listens path entry node)
    (ends : (retreat path listener node.inode failure).CanEnd FileSystem.Answers now result
      after) : result = .error failure ∧ after = (now.erase entry).close listener := by
  obtain ⟨_, between, removing, last⟩ := ends.of_bind
  have removed : between = now.erase entry := by
    rw [removeOwn_eq] at removing
    obtain ⟨found, _, looked, later⟩ := removing
    obtain ⟨rfl, rfl⟩ := FileSystem.answers_status looked
    rw [listens.find, discard, if_pos rfl] at later
    obtain ⟨answer, _, unlinking, last⟩ := later
    cases listens.unlink_eq.symm.trans (FileSystem.answers_unlink unlinking)
    exact last.2
  obtain ⟨_, _, closing, rest⟩ := last.of_call
  obtain rfl := FileSystem.answers_close closing
  obtain ⟨rfl, rfl⟩ := rest
  exact ⟨rfl, removed ▸ rfl⟩

theorem claims_of_confine {now : FileSystem} {entry : Location} {node : FileNode} {listener : Nat}
    {result : Except Failure ControlSocket} (listens : now.Listens path entry node)
    (others : ∀ location, (now.erase entry).node? location = files.node? location)
    (ends : (confine path listener node.inode).CanEnd FileSystem.Answers now result after) :
    Claims files path result after := by
  rw [confine_eq] at ends
  obtain ⟨answer, between, answered, rest⟩ := ends
  rcases FileSystem.answers_setMode answered with ⟨fault, rfl, rfl⟩ | ⟨rfl, changed⟩
  · obtain ⟨rfl, rfl⟩ := erased_of_retreat listens rest
    exact .given others
  · obtain ⟨rfl, rfl⟩ := rest
    obtain ⟨again, found, same⟩ := FileSystem.modify_of_setMode changed
    cases (listens.find true).symm.trans found
    have isWritable :
        ({ node with mode := Privacy.socket.limit % 0o10000 }).isWritable = true := by
      simp [FileNode.isWritable, FileNode.ownerBits, Privacy.limit]
    have still := (listens.setMode isWritable).2
    rw [changed] at still
    refine .taken still rfl rfl rfl fun location => ?_
    rw [← others, FileSystem.node?_erase, FileSystem.node?_erase]
    split
    · rfl
    · next differ => rw [same, FileSystem.node?_modify_of_ne listens.sole differ]

theorem claims_of_claim {result : Except Failure ControlSocket}
    (ends : (claim path).CanEnd FileSystem.Answers files result after) :
    Claims files path result after := by
  rw [claim_eq] at ends
  obtain ⟨listened, now, answered, rest⟩ := ends
  rcases FileSystem.answers_listen answered with ⟨fault, rfl, rfl⟩ | ⟨number, rfl, listened⟩
  · obtain ⟨rfl, rfl⟩ := rest
    exact .given fun _ => rfl
  rw [claimed, secure_eq] at rest
  obtain ⟨seen, _, looked, last⟩ := rest
  obtain ⟨rfl, rfl⟩ := FileSystem.answers_status looked
  by_cases nameless : path.bytes = []
  · rw [find_nameless nameless] at last
    have held : files.listen path = (.ok files.freshInode, files.hold files.freshInode) := by
      simp [FileSystem.listen, FileSystem.addressFault?, FileSystem.addressLimit, nameless]
    cases held.symm.trans listened
    obtain ⟨_, _, closing, rest⟩ := last
    obtain rfl := FileSystem.answers_close closing
    obtain ⟨rfl, rfl⟩ := rest
    exact .given fun _ => rfl
  · obtain ⟨-, entry, node, listens, rfl, vacant, others⟩ :=
      FileSystem.listens_of_listen listened nameless
    rw [listens.find] at last
    refine claims_of_confine listens (fun location => ?_) last
    rw [FileSystem.node?_erase]
    split
    · next same => rw [same, vacant]
    · next differ => exact others location differ

/-! ### Taking over -/

theorem removes_and_grows_of_clear (tree : files.IsTree) {result : Except Failure Unit}
    (ends : (clear path).CanEnd FileSystem.Answers files result after) :
    ∃ removed cleared, Removes files path removed cleared ∧ Grows cleared after ∧
      (result = .ok () → removed = .ok () ∧ IsHoused files after path) := by
  obtain ⟨removed, cleared, removing, rest⟩ := ends.of_bind
  have removes := removes_of_remove tree removing
  refine ⟨removed, cleared, removes, ?_⟩
  cases removed with
  | error failure =>
    obtain ⟨rfl, rfl⟩ := rest
    exact ⟨.refl _, fun done => nomatch done⟩
  | ok _ =>
    have ensuring : (ensureParent path).CanEnd FileSystem.Answers cleared result after := rest
    refine ⟨(FileSystem.grows_of_builds (ensureParent_builds path) ensuring).1, ?_⟩
    rintro rfl
    refine ⟨rfl, fun directory above nonempty => ?_⟩
    rw [ensureParent, above] at ensuring
    dsimp only at ensuring
    rw [if_neg (by simpa using nonempty)] at ensuring
    have ensured := FileSystem.ensured_of_ensureDirectory ensuring
    exact (houses_of_ensured (removes.isTree tree) ensured).of_removes removes above nonempty

inductive Binds (files : FileSystem) (path : Path) :
    Except Failure ControlSocket → FileSystem → Prop where
  -- There is a new socket, and everything else that is new is a directory.
  | bound {cleared after : FileSystem} {socket : ControlSocket} {entry : Location}
    {node : FileNode} (removes : Removes files path (.ok ()) cleared)
    (grows : Grows cleared (after.erase entry)) (listens : after.Listens path entry node)
    (found : after.find path false = .ok node) (mode : node.mode = Privacy.socket.limit)
    (place : socket.path = path) (tracked : socket.tracked = node.inode)
    (isHoused : IsHoused files after path) :
    Binds files path (.ok socket) after
  -- Everything that is new is a directory.
  | failed {removed : Except Failure Unit} {cleared after : FileSystem} {failure : Failure}
    (removes : Removes files path removed cleared) (grows : Grows cleared after) :
    Binds files path (.error failure) after

theorem binds_of_claims {between : FileSystem} {result : Except Failure ControlSocket}
    (removes : Removes files path (.ok ()) cleared) (grows : Grows cleared between)
    (isHoused : IsHoused files between path)
    (claims : Claims between path result after) : Binds files path result after := by
  cases claims with
  | given same => exact .failed removes (grows.trans (FileSystem.grows_of_nodes same))
  | taken listens mode place tracked others =>
    refine .bound removes (grows.trans (FileSystem.grows_of_nodes others)) listens
      (listens.find false) mode place tracked fun directory above nonempty => ?_
    refine (isHoused directory above nonempty).same fun location found isThere => ?_
    rw [← others, FileSystem.node?_erase] at isThere
    split at isThere
    · cases isThere
    · exact isThere

/--
Where nobody else changes files, removing what a daemon left removes a socket at its path or
nothing, and fails only if it has removed nothing. Whoever takes over a path has a private
socket there, in a directory that is as it was before or private to the user, and new unless its
path leads up. Whoever fails to, because of what is there or because making a directory, setting a
mode or listening is refused, has at most removed the socket that was left and made directories.
-/
theorem binds_or_leaves_nothing (tree : files.IsTree) (path : Path) :
    (∀ result after, (remove path).CanEnd FileSystem.Answers files result after →
      Removes files path result after) ∧
    ∀ result after, (bind path).CanEnd Host.Replies files result after →
      Binds files path result after := by
  refine ⟨fun _ _ => removes_of_remove tree, fun result after ends => ?_⟩
  rw [bind_eq] at ends
  obtain ⟨prepared, between, preparing, settling⟩ := ends.of_bind
  obtain ⟨_, _, evicting, clearing⟩ := preparing.of_bind
  obtain rfl := evict_leaves evicting
  obtain ⟨removed, cleared, removes, grows, done⟩ :=
    removes_and_grows_of_clear tree (Host.canEnd_of_ofFiles clearing)
  cases prepared with
  | error failure =>
    obtain ⟨rfl, rfl⟩ := settling
    exact .failed removes grows
  | ok _ =>
    obtain ⟨rfl, isHoused⟩ := done rfl
    exact binds_of_claims removes grows isHoused
      (claims_of_claim (Host.canEnd_of_ofFiles settling))

def alone (handler : Interaction.Handler FileCall FileCall.Answer FileSystem) :
    Interaction.Handler Host.Call Host.Call.Answer FileSystem
  | .file call, files => handler call files
  | .contact .., files => (.refused .notFound, files)
  | .now, files => (0, files)
  | .sleep _, files => ((), files)
  | .start .., files => (.ok (), files)

theorem canEnd_alone {α : Type} {handler : Interaction.Handler FileCall FileCall.Answer FileSystem}
    (allowed : ∀ call files,
      FileSystem.Answers call files (handler call files).1 (handler call files).2)
    (task : Host.Task α) (files : FileSystem) :
    task.CanEnd Host.Replies files (task.run (alone handler) files).1
      (task.run (alone handler) files).2 := by
  refine Interaction.canEnd_run (fun call files => ?_) task files
  cases call with
  | file call => exact allowed call files
  | _ => rfl

def fixedModes : Interaction.Handler FileCall FileCall.Answer FileSystem
  | .setMode .., files => (.error .notPermitted, files)
  | call, files => files.react call

/-- There is a directory `/d/b` that everybody may list. -/
def listable : FileSystem where
  nodes := [([], ⟨0, .directory, 0o755, 0⟩), ([Text.encode "d"], ⟨1, .directory, 0o755, 1000⟩),
    ([Text.encode "d", Text.encode "b"], ⟨2, .directory, 0o755, 1000⟩)]
  held := []
  user := 1000

theorem isTree_listable : listable.IsTree :=
  FileSystem.isTree_of_all (by decide +kernel) (by decide +kernel)

-- On the way to the socket, a directory is made that leads to one that was there.
theorem narrows_what_was_listable :
    let taken := (bind (.ofText "/d/new/../b/socket")).run (alone FileSystem.react) listable
    let refused := (bind (.ofText "/d/b/socket")).run (alone fixedModes) listable
    Binds listable (.ofText "/d/new/../b/socket") taken.1 taken.2 ∧
      taken.1.toOption.isSome = true ∧
      taken.2.node? [Text.encode "d", Text.encode "b"] = some ⟨2, .directory, 0o700, 1000⟩ ∧
      Binds listable (.ofText "/d/b/socket") refused.1 refused.2 ∧
      refused.1.toOption.isSome = false ∧ refused.2 = listable := by
  have allowed (call : FileCall) (files : FileSystem) :
      FileSystem.Answers call files (fixedModes call files).1 (fixedModes call files).2 := by
    cases call with
    | setMode path mode => exact .inr ⟨.notPermitted, rfl⟩
    | _ => exact .inl rfl
  refine ⟨?_, by decide +kernel, by decide +kernel, ?_, by decide +kernel, by decide +kernel⟩
  · exact (binds_or_leaves_nothing isTree_listable _).2 _ _
      (canEnd_alone (fun _ _ => .inl rfl) _ listable)
  · exact (binds_or_leaves_nothing isTree_listable _).2 _ _ (canEnd_alone allowed _ listable)

end TunnelBroker.ControlSocket
