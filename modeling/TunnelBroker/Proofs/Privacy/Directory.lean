import TunnelBroker.Proofs.FileSystem.Parent
import TunnelBroker.Proofs.FileSystem.Tree
import TunnelBroker.Proofs.Privacy.Files

/-!
Making sure of directories, where making one and setting a mode may be refused at any time. Main
statements: a directory whose path does not lead up is made new if it is missing, and when a
directory has been made sure of, it is there and not open to everybody.
-/

set_option autoImplicit false

namespace TunnelBroker.FileSystem

variable {files after : FileSystem} {directory : Path} {location : Location} {node : FileNode}

/-! ### Making directories -/

theorem find_of_isDirectory {path : Path} {result : Bool}
    (ends : (FileTask.isDirectory path).CanEnd Answers files result after) :
    result = (files.find path true).toOption.any (·.isDirectory) ∧ files = after := by
  obtain ⟨answer, between, answered, rfl, rfl⟩ := ends
  obtain ⟨rfl, rfl⟩ := answers_status answered
  exact ⟨rfl, rfl⟩

theorem find_of_exists? {path : Path} {result : Bool}
    (ends : (FileTask.exists? path).CanEnd Answers files result after) :
    result = (files.find path true).toOption.isSome ∧ files = after := by
  obtain ⟨answer, between, answered, rfl, rfl⟩ := ends
  obtain ⟨rfl, rfl⟩ := answers_status answered
  exact ⟨rfl, rfl⟩

theorem exists_of_any_isDirectory {found : Except FileFault FileNode}
    (isDirectory : found.toOption.any (·.isDirectory) = true) :
    ∃ node, found = .ok node ∧ node.isDirectory = true := by
  cases found with
  | error fault => cases isDirectory
  | ok node => exact ⟨node, rfl, isDirectory⟩

/-- A directory is under a path: one that was there, or a new one. -/
inductive Provides (files after : FileSystem) (path : Path) : Prop where
  | found {node : FileNode} (found : files.find path true = .ok node)
    (isDirectory : node.isDirectory = true) (same : after = files)
  | made {location : Location} {node : FileNode} (makes : Makes files after path location node)

theorem Provides.find {path : Path} (provides : Provides files after path) :
    ∃ node, after.find path true = .ok node ∧ node.isDirectory = true := by
  cases provides with
  | found found isDirectory same => exact same ▸ ⟨_, found, isDirectory⟩
  | made makes => exact ⟨_, makes.located.find, makes.located.isDirectory⟩

theorem provides_of_unlessDirectory {between : FileSystem} {path : Path}
    {made : Except FileFault Unit} (answered : Answers (.makeDirectory path) files made between)
    (ends : (FileTask.unlessDirectory path made).CanEnd Answers between (.ok ()) after) :
    Provides files after path := by
  rcases answers_makeDirectory answered with ⟨fault, rfl, rfl⟩ | ⟨rfl, location, node, makes⟩
  · obtain ⟨isDirectory, _, looked, ends⟩ := ends.of_bind
    obtain ⟨rfl, rfl⟩ := find_of_isDirectory looked
    split at ends
    · next isDirectory =>
      obtain ⟨-, rfl⟩ := ends
      obtain ⟨node, found, isDirectory⟩ := exists_of_any_isDirectory isDirectory
      exact .found found isDirectory rfl
    · obtain ⟨⟨⟩, -⟩ := ends
  · obtain ⟨-, rfl⟩ := ends
    exact .made makes

-- Whatever happens before, the directory is made or found at last.
theorem provides_of_makeAfter {path : Path} {above : FileTask (Except FileFault Unit)}
    (here : path.bytes ≠ [])
    (ends : (FileTask.makeAfter above path).CanEnd Answers files (.ok ()) after) :
    ∃ between, (between = files ∨ above.CanEnd Answers files (.ok ()) between) ∧
      Provides between after path := by
  unfold FileTask.makeAfter at ends
  rw [if_neg (by simpa using here)] at ends
  obtain ⟨made, between, answered, rest⟩ := ends.of_call
  split at rest
  · -- Nothing has been made if the directory above is missing.
    have same : between = files := by
      rcases answers_makeDirectory answered with ⟨_, -, same⟩ | ⟨⟨⟩, -⟩
      exact same
    subst same
    obtain ⟨result, mid, before, rest⟩ := rest.of_bind
    cases result with
    | error fault => obtain ⟨⟨⟩, -⟩ := rest
    | ok _ =>
      obtain ⟨made, later, answered, rest⟩ := rest.of_call
      exact ⟨mid, .inr before, provides_of_unlessDirectory answered rest⟩
  · exact ⟨files, .inl rfl, provides_of_unlessDirectory answered rest⟩

theorem eq_of_makeAfter_nowhere {path : Path} {above : FileTask (Except FileFault Unit)}
    (nowhere : path.bytes = [])
    (ends : (FileTask.makeAfter above path).CanEnd Answers files (.ok ()) after) :
    after = files := by
  unfold FileTask.makeAfter at ends
  rw [if_pos (by simpa using nowhere)] at ends
  exact ends.2

theorem makeBelow_eq (ancestors : List Path) (path : Path) :
    ∃ above, FileTask.makeBelow ancestors path = FileTask.makeAfter above path := by
  cases ancestors with
  | nil => exact ⟨_, rfl⟩
  | cons parent others => exact ⟨_, rfl⟩

/-! ### New directories -/

/-- The directory under a path is new, and nothing is in it. -/
structure IsNew (files after : FileSystem) (path : Path) (location : Location)
    (node : FileNode) : Prop where
  located : Located after path location node
  vacant : files.node? location = none
  empty : ∀ name, after.node? (location ++ [name]) = none

theorem traverse_empty {follows isDirectory : Bool} {onLink : Way} {name : Bytes}
    {before behind : List Bytes} {place : Place}
    (empty : ∀ name, files.node? (location ++ [name]) = none)
    (dots : ∀ step ∈ before, step = Path.dot) (ne_dot : name ≠ Path.dot)
    (ne_dotDot : name ≠ Path.dotDot)
    (walked : files.traverse follows onLink location (before ++ name :: behind) isDirectory =
      .ok place) : place.node = none := by
  induction before with
  | nil =>
    cases passes_of_traverse walked with
    | stay later => exact absurd rfl ne_dot
    | ascend later => exact absurd rfl ne_dotDot
    | missing _ _ _ _ => rfl
    | link found _ => cases (empty _).symm.trans found
    | follow _ _ _ found _ _ => cases (empty _).symm.trans found
    | enter _ _ _ found _ _ => cases (empty _).symm.trans found
  | cons step before ih =>
    obtain ⟨rfl, others⟩ := List.forall_mem_cons.1 dots
    rw [List.cons_append, traverse_dot (isOpen_of_traverse walked)] at walked
    exact ih others walked

-- Below a directory that is new there is nothing yet.
theorem IsNew.find_ne {path directory : Path} (isNew : IsNew files after directory location node)
    (above : path.parent? = some directory) (nonempty : directory.bytes ≠ [])
    (down : path.goesUp = false) (found : FileNode) : after.find path true ≠ .ok found := by
  intro isThere
  obtain ⟨before, name, behind, steps, dots, -, busy⟩ := Path.steps_of_parent? above nonempty
  have ne_dot : name ≠ Path.dot := by
    rintro rfl
    cases busy
  have ne_dotDot : name ≠ Path.dotDot := by
    rintro rfl
    rw [Bool.eq_false_iff, ne_eq, Path.goesUp_iff, steps] at down
    exact down (List.mem_append_right _ List.mem_cons_self)
  unfold FileSystem.find locate at isThere
  split at isThere
  · cases isThere
  · next place walked =>
    obtain ⟨rest, leads⟩ := isNew.located.leads
    obtain ⟨first, others, onward⟩ :=
      List.exists_cons_of_ne_nil (List.append_ne_nil_of_right_ne_nil before
        (List.cons_ne_nil name behind))
    rw [locateAs_of_sound (sound_of_locateAs walked), steps, List.append_assoc, onward,
      leads.walk_append, ← onward, walk_eq] at walked
    rw [traverse_empty isNew.empty dots ne_dot ne_dotDot walked] at isThere
    cases isThere

theorem makeAfter_builds {above : FileTask (Except FileFault Unit)}
    (before : above.Puts FileCall.Builds) (path : Path) :
    (FileTask.makeAfter above path).Puts FileCall.Builds := by
  have last (made : Except FileFault Unit) :
      (FileTask.unlessDirectory path made).Puts FileCall.Builds := by
    cases made with
    | ok _ => trivial
    | error fault =>
      refine Interaction.puts_call trivial fun found => ?_
      dsimp only
      split <;> trivial
  unfold FileTask.makeAfter
  split
  · trivial
  · refine Interaction.puts_call trivial fun made => ?_
    split
    · refine before.bind fun result => ?_
      cases result with
      | error fault => trivial
      | ok _ => exact Interaction.puts_call trivial fun _ => last _
    · exact last _

theorem makeBelow_builds (ancestors : List Path) (path : Path) :
    (FileTask.makeBelow ancestors path).Puts FileCall.Builds := by
  induction ancestors generalizing path with
  | nil =>
    have ends : (Interaction.done (.error .incompleteTree) :
        FileTask (Except FileFault Unit)).Puts FileCall.Builds := trivial
    exact makeAfter_builds ends path
  | cons parent others ih => exact makeAfter_builds (ih parent) path

theorem ensureDirectory_builds (path : Path) :
    (Privacy.ensureDirectory path).Puts FileCall.Builds := by
  have exists_builds : (FileTask.exists? path).Puts FileCall.Builds :=
    Interaction.puts_call trivial fun _ => trivial
  refine exists_builds.bind fun there => ?_
  split
  · have isDirectory_builds : (FileTask.isDirectory path).Puts FileCall.Builds :=
      Interaction.puts_call trivial fun _ => trivial
    refine isDirectory_builds.bind fun isDirectory => ?_
    split
    · refine Interaction.puts_call trivial fun found => ?_
      cases found with
      | error fault => trivial
      | ok node =>
        dsimp only
        split <;> trivial
    · trivial
  · refine (makeBelow_builds _ path).bind fun made => ?_
    cases made with
    | error fault => trivial
    | ok _ =>
      refine Interaction.puts_call trivial fun changed => ?_
      cases changed <;> trivial

-- Where directories are made, nothing else comes or goes.
theorem grows_of_builds {α : Type} {task : FileTask α} {result : α}
    (builds : task.Puts FileCall.Builds) (ends : task.CanEnd Answers files result after) :
    Grows files after ∧ (files.IsTree → after.IsTree) :=
  ends.relates builds (fun files => ⟨.refl files, id⟩)
    (fun _ _ _ before behind => ⟨before.1.trans behind.1, behind.2 ∘ before.2⟩)
    fun _ _ _ _ => answers_builds

theorem Provides.unchanged_or_isNew {path : Path} (tree : files.IsTree)
    (provides : Provides files after path) :
    after = files ∨ ∃ location node, IsNew files after path location node := by
  cases provides with
  | found _ _ same => exact .inl same
  | made makes => exact .inr ⟨_, _, makes.located, makes.vacant, makes.empty tree⟩

theorem unchanged_or_isNew_of_alone {path : Path} (tree : files.IsTree) (here : path.bytes ≠ [])
    (ends : (FileTask.makeBelow [] path).CanEnd Answers files (.ok ()) after) :
    after = files ∨ ∃ location node, IsNew files after path location node := by
  obtain ⟨between, rfl | ⟨⟨⟩, -⟩, provides⟩ := provides_of_makeAfter here ends
  exact provides.unchanged_or_isNew tree

-- A directory that was not there is made new, unless its path leads up on the way.
theorem unchanged_or_isNew (tree : files.IsTree) (depth : Nat) {path : Path}
    (down : path.goesUp = false)
    (ends : (FileTask.makeBelow (path.ancestorsWithin depth) path).CanEnd Answers files (.ok ())
      after) :
    after = files ∨ ∃ location node, IsNew files after path location node := by
  induction depth generalizing path after with
  | zero =>
    by_cases here : path.bytes = []
    · exact .inl (eq_of_makeAfter_nowhere here ends)
    · exact unchanged_or_isNew_of_alone tree here ends
  | succ depth ih =>
    by_cases here : path.bytes = []
    · obtain ⟨above, same⟩ := makeBelow_eq (path.ancestorsWithin (depth + 1)) path
      exact .inl (eq_of_makeAfter_nowhere here (same ▸ ends))
    rw [Path.ancestorsWithin] at ends
    cases isAbove : path.parent? with
    | none =>
      rw [isAbove] at ends
      exact unchanged_or_isNew_of_alone tree here ends
    | some parent =>
      rw [isAbove] at ends
      obtain ⟨between, rfl | before, provides⟩ := provides_of_makeAfter here ends
      · exact provides.unchanged_or_isNew tree
      by_cases nowhere : parent.bytes = []
      · obtain ⟨above, same⟩ := makeBelow_eq (parent.ancestorsWithin depth) parent
        obtain rfl := eq_of_makeAfter_nowhere nowhere (same ▸ before)
        exact provides.unchanged_or_isNew tree
      obtain ⟨grows, isTree⟩ := grows_of_builds (makeBelow_builds _ parent) before
      rcases ih (Path.goesUp_of_parent? isAbove nowhere down) before with
        rfl | ⟨location, node, isNew⟩
      · exact provides.unchanged_or_isNew tree
      -- Nothing is found in the new directory above, so this one is made in it.
      cases provides with
      | found found _ _ => exact absurd found (isNew.find_ne isAbove nowhere down _)
      | made makes =>
        exact .inr ⟨_, _, makes.located, grows.missing makes.vacant, makes.empty (isTree tree)⟩

/-! ### Making sure -/

theorem keeps_setMode {inode mode : Nat}
    (searchable : ∀ node : FileNode, ({ node with mode := mode }).isSearchable = true) :
    Keeps files (files.modify inode ({ · with mode := mode })) := by
  intro location node found _
  by_cases same : node.inode = inode
  · exact ⟨{ node with mode := mode }, by simp [found, same], rfl, fun _ => searchable node⟩
  · exact ⟨node, by simp [found, same], rfl, id⟩

-- A directory that is made private stays where it is.
theorem Located.restrict (located : Located files directory location node) :
    Located (files.modify node.inode ({ · with mode := 0o700 })) directory location
      { node with mode := 0o700 } := by
  refine located.keeps (keeps_setMode fun _ => ?_) ?_ located.isDirectory
  · simp [FileNode.isSearchable, FileNode.ownerBits]
  · rw [node?_modify, located.found, Option.map_some, if_pos rfl]

/-- A directory has been made sure of: it was there, or it has been made and made private. -/
inductive Ensured (files after : FileSystem) (directory : Path) : Prop where
  | found {location : Location} {node : FileNode}
    (located : Located files directory location node) (guarded : node.isExposed = false)
    (same : after = files)
  -- What a path leads to that goes up may have been there, behind what was missing.
  | made {fault : FileFault} {location : Location} {node : FileNode}
    (missing : files.find directory true = .error fault)
    (located : Located after directory location node) (mode : node.mode = 0o700)
    (new : files.IsTree → directory.goesUp = false → files.node? location = none)

theorem ensured_of_found (found : files.find directory true = .ok node)
    (isDirectory : node.isDirectory = true)
    (ends : (Privacy.checkShared directory).CanEnd Answers files (.ok ()) after) :
    Ensured files after directory := by
  obtain ⟨answer, between, answered, rest⟩ := ends.of_call
  obtain ⟨rfl, rfl⟩ := answers_status answered
  rw [found] at rest
  dsimp only at rest
  split at rest
  · obtain ⟨⟨⟩, -⟩ := rest
  · next guarded =>
    obtain ⟨-, rfl⟩ := rest
    obtain ⟨location, located⟩ := located_of_find found isDirectory
    exact .found located (Bool.eq_false_iff.2 guarded) rfl

theorem ensured_of_missing {between : FileSystem} {fault : FileFault}
    (missing : files.find directory true = .error fault)
    (making : (FileTask.makeTree directory).CanEnd Answers files (.ok ()) between)
    (ends : (Privacy.directory.restrict directory).CanEnd Answers between (.ok ()) after) :
    Ensured files after directory := by
  obtain ⟨answer, now, answered, rest⟩ := ends.of_call
  rcases answers_setMode answered with ⟨fault, rfl, -⟩ | ⟨rfl, changed⟩
  · obtain ⟨⟨⟩, -⟩ := rest
  obtain ⟨-, rfl⟩ := rest
  obtain ⟨node, found, rfl⟩ := modify_of_setMode changed
  obtain ⟨place, walked⟩ := exists_locateAs_of_find found
  have here := nonempty_of_sound (sound_of_locateAs walked)
  have isDirectory : node.isDirectory = true := by
    obtain ⟨above, same⟩ := makeBelow_eq directory.ancestors directory
    rw [FileTask.makeTree, same] at making
    obtain ⟨_, -, provides⟩ := provides_of_makeAfter here making
    obtain ⟨there, again, isDirectory⟩ := provides.find
    cases found.symm.trans again
    exact isDirectory
  obtain ⟨location, located⟩ := located_of_find found isDirectory
  refine .made missing located.restrict rfl fun tree down => ?_
  rcases unchanged_or_isNew tree _ down making with rfl | ⟨other, there, isNew⟩
  · cases missing.symm.trans found
  · obtain ⟨rfl, -⟩ := located.unique isNew.located
    exact isNew.vacant

theorem ensured_of_ensureDirectory
    (ends : (Privacy.ensureDirectory directory).CanEnd Answers files (.ok ()) after) :
    Ensured files after directory := by
  unfold Privacy.ensureDirectory at ends
  obtain ⟨there, _, looked, rest⟩ := ends.of_bind
  obtain ⟨rfl, rfl⟩ := find_of_exists? looked
  split at rest
  · obtain ⟨isDirectory, _, looked, rest⟩ := rest.of_bind
    obtain ⟨rfl, rfl⟩ := find_of_isDirectory looked
    split at rest
    · next isDirectory =>
      obtain ⟨node, found, isDirectory⟩ := exists_of_any_isDirectory isDirectory
      exact ensured_of_found found isDirectory rest
    · obtain ⟨⟨⟩, -⟩ := rest
  · next unknown =>
    obtain ⟨made, between, making, rest⟩ := rest.of_bind
    cases made with
    | error fault => obtain ⟨⟨⟩, -⟩ := rest
    | ok _ =>
      cases missing : files.find directory true with
      | ok node => exact absurd (by rw [missing]; rfl) unknown
      | error fault => exact ensured_of_missing missing making rest

-- Once a directory has been made sure of, it is there.
theorem located_of_ensureDirectory
    (done : files.run (Privacy.ensureDirectory directory) = (.ok (), after)) :
    ∃ location node, Located after directory location node ∧ node.isExposed = false := by
  cases ensured_of_ensureDirectory (canEnd_of_run done) with
  | found located guarded same => exact same ▸ ⟨_, _, located, guarded⟩
  | made _ located mode _ =>
    exact ⟨_, _, located, by simp [FileNode.isExposed, FileNode.isWorldWritable, mode]⟩

end TunnelBroker.FileSystem
