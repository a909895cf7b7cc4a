import TunnelBroker.Proofs.FileSystem.Entry
import TunnelBroker.Proofs.Interaction

/-!
File systems whose directories make up a tree, and calls of which some may be refused for whatever
reason: making a directory, setting a mode and listening. Main statements: making a directory puts
an empty one where nothing was, and as long as only directories are made and modes are changed,
nothing else comes or goes.
-/

set_option autoImplicit false

namespace TunnelBroker

/-- A call that looks something up, makes a directory or changes a mode. -/
def FileCall.Builds : FileCall → Prop
  | .status .. => True
  | .makeDirectory _ => True
  | .setMode .. => True
  | _ => False

namespace FileSystem

variable {files after later : FileSystem} {path : Path} {location : Location} {node : FileNode}

/-- Whatever there is lies in a directory, and the root is one. -/
structure IsTree (files : FileSystem) : Prop where
  root : ∀ node, files.node? [] = some node → node.isDirectory = true
  within : ∀ location name node, files.node? (location ++ [name]) = some node →
    ∃ above, files.node? location = some above ∧ above.isDirectory = true

theorem isTree_of_all (root : (files.node? []).all (·.isDirectory) = true)
    (within : files.nodes.all (fun entry =>
      entry.1.isEmpty || (files.node? entry.1.dropLast).any (·.isDirectory)) = true) :
    files.IsTree where
  root := by
    intro node found
    rwa [found, Option.all_some] at root
  within := by
    intro location name node found
    have above := List.all_eq_true.1 within _ (mem_of_node? found)
    simpa [Option.any_eq_true] using above

-- There is nothing below what is not there.
theorem IsTree.node?_below (tree : files.IsTree) (missing : files.node? location = none)
    (name : Bytes) : files.node? (location ++ [name]) = none := by
  cases found : files.node? (location ++ [name]) with
  | none => rfl
  | some node =>
    obtain ⟨above, isThere, -⟩ := tree.within location name node found
    cases missing.symm.trans isThere

/-- Nothing goes or becomes something else, and what is new is a directory. -/
structure Grows (files after : FileSystem) : Prop where
  kept : ∀ location node, files.node? location = some node →
    ∃ kept, after.node? location = some kept ∧ kept.inode = node.inode ∧ kept.kind = node.kind
  new : ∀ location node, after.node? location = some node → files.node? location = none →
    node.isDirectory = true

theorem Grows.refl (files : FileSystem) : Grows files files where
  kept := fun _ node found => ⟨node, found, rfl, rfl⟩
  new := by
    intro location node found missing
    cases missing.symm.trans found

theorem Grows.trans (before : Grows files after) (behind : Grows after later) :
    Grows files later where
  kept := by
    intro location node found
    obtain ⟨between, found, sameInode, sameKind⟩ := before.kept location node found
    obtain ⟨kept, found, inode, kind⟩ := behind.kept location between found
    exact ⟨kept, found, inode.trans sameInode, kind.trans sameKind⟩
  new := by
    intro location node found missing
    cases isThere : after.node? location with
    | none => exact behind.new location node found isThere
    | some between =>
      have isDirectory := before.new location between isThere missing
      obtain ⟨kept, again, -, sameKind⟩ := behind.kept location between isThere
      cases found.symm.trans again
      rwa [FileNode.isDirectory, sameKind]

theorem Grows.missing (grows : Grows files after) (missing : after.node? location = none) :
    files.node? location = none := by
  cases found : files.node? location with
  | none => rfl
  | some node =>
    obtain ⟨kept, isThere, -⟩ := grows.kept location node found
    cases missing.symm.trans isThere

theorem grows_of_nodes (same : ∀ location, after.node? location = files.node? location) :
    Grows files after where
  kept := fun location node found => ⟨node, (same location).trans found, rfl, rfl⟩
  new := by
    intro location node found missing
    cases ((same location).trans missing).symm.trans found

/-! ### Changes -/

theorem grows_modify (inode mode : Nat) :
    Grows files (files.modify inode ({ · with mode := mode })) where
  kept := by
    intro location node found
    rw [node?_modify, found, Option.map_some]
    refine ⟨_, rfl, ?_⟩
    split <;> exact ⟨rfl, rfl⟩
  new := by
    intro location node found missing
    rw [node?_modify, missing] at found
    cases found

theorem IsTree.modify (tree : files.IsTree) (inode mode : Nat) :
    (files.modify inode ({ · with mode := mode })).IsTree where
  root := by
    intro node found
    rw [node?_modify, Option.map_eq_some_iff] at found
    obtain ⟨before, found, rfl⟩ := found
    split <;> exact tree.root before found
  within := by
    intro location name node found
    rw [node?_modify, Option.map_eq_some_iff] at found
    obtain ⟨before, found, -⟩ := found
    obtain ⟨above, isThere, isDirectory⟩ := tree.within location name before found
    rw [node?_modify, isThere, Option.map_some]
    refine ⟨_, rfl, ?_⟩
    split <;> exact isDirectory

-- What is no directory can go without anything below it.
theorem IsTree.erase (tree : files.IsTree) (found : files.node? location = some node)
    (leaf : node.isDirectory = false) : (files.erase location).IsTree where
  root := by
    intro other isThere
    rw [node?_erase] at isThere
    split at isThere
    · cases isThere
    · exact tree.root other isThere
  within := by
    intro place name other isThere
    rw [node?_erase] at isThere
    split at isThere
    · cases isThere
    · obtain ⟨above, isAbove, isDirectory⟩ := tree.within place name other isThere
      refine ⟨above, ?_, isDirectory⟩
      rw [node?_erase, if_neg]
      · exact isAbove
      · rintro rfl
        cases found.symm.trans isAbove
        cases leaf.symm.trans isDirectory

/-! ### What is neither a directory nor a link -/

-- A way that has to end at a directory does so, or it ends where nothing is.
theorem isDirectory_of_traverse {steps : List Bytes} {follows : Bool} {onLink : Way}
    (noLink : ¬ node.IsLink)
    (onward : ∀ start steps, onLink start steps true = .ok ⟨location, some node⟩ →
      node.isDirectory = true) {start : Location}
    (walked : files.traverse follows onLink start steps true = .ok ⟨location, some node⟩) :
    node.isDirectory = true := by
  induction steps generalizing start with
  | nil =>
    unfold traverse at walked
    split at walked
    · cases walked
    · split at walked
      · cases walked
      · next isDirectory =>
        cases walked
        simpa using isDirectory
  | cons name steps ih =>
    cases passes_of_traverse walked with
    | stay later => exact ih later
    | ascend later => exact ih later
    | link _ isLink => exact absurd isLink noLink
    | follow _ _ _ _ _ later => exact onward _ _ later
    | enter _ _ _ _ _ later => exact ih later

theorem isDirectory_of_walk {steps : List Bytes} {follows : Bool} {links : Nat}
    {start : Location} (noLink : ¬ node.IsLink)
    (walked : files.walk follows links start steps true = .ok ⟨location, some node⟩) :
    node.isDirectory = true := by
  rw [walk_eq] at walked
  -- By induction on the links that may be followed.
  induction links generalizing start steps with
  | zero =>
    refine isDirectory_of_traverse noLink (fun _ _ later => ?_) walked
    cases later
  | succ links ih =>
    refine isDirectory_of_traverse noLink (fun _ _ later => ?_) walked
    rw [behindLink, walk_eq] at later
    exact ih later

theorem eq_of_traverse_nil {start : Location} {follows directory : Bool} {onLink : Way}
    (walked : files.traverse follows onLink start [] directory = .ok ⟨location, some node⟩) :
    files.node? start = some node ∧ start = location := by
  unfold traverse at walked
  split at walked
  · cases walked
  · next there found =>
    split at walked
    · cases walked
    · cases walked
      exact ⟨found, rfl⟩

theorem IsTree.isDirectory_dropLast (tree : files.IsTree) {above : FileNode}
    (isThere : files.node? location = some above) (isDirectory : above.isDirectory = true)
    (found : files.node? location.dropLast = some node) : node.isDirectory = true := by
  rcases List.eq_nil_or_concat location with rfl | ⟨front, name, rfl⟩
  · cases isThere.symm.trans found
    exact isDirectory
  · rw [List.concat_eq_append] at isThere found
    rw [List.dropLast_concat] at found
    obtain ⟨directory, again, isDirectory⟩ := tree.within front name above isThere
    cases found.symm.trans again
    exact isDirectory

-- What is no directory is an entry of the directory that the way leads through.
theorem IsTree.leadsInto_of_walk (tree : files.IsTree) {links : Nat} {start : Location}
    {front : List Bytes} {name : Bytes} (leaf : node.isDirectory = false)
    (noLink : ¬ node.IsLink)
    (walked : files.walk false links start (front ++ [name]) false = .ok ⟨location, some node⟩) :
    files.LeadsInto links start front name location := by
  obtain ⟨goal, rest, leads, walked⟩ := exists_leads_of_walk walked
  rw [walk_eq] at walked
  have isOpen := isOpen_of_traverse walked
  obtain ⟨above, isThere, isDirectory, -⟩ := id isOpen
  cases passes_of_traverse walked with
  | stay later =>
    obtain ⟨same, -⟩ := eq_of_traverse_nil later
    cases isThere.symm.trans same
    cases leaf.symm.trans isDirectory
  | ascend later =>
    obtain ⟨same, -⟩ := eq_of_traverse_nil later
    cases leaf.symm.trans (tree.isDirectory_dropLast isThere isDirectory same)
  | link _ isLink => exact absurd isLink noLink
  | follow ne_dot ne_dotDot short found isLink _ =>
    -- A link at the end is found itself.
    have ends : files.traverse false (files.behindLink false rest) goal [name] false =
        .ok ⟨goal ++ [name], files.node? (goal ++ [name])⟩ :=
      traverse_last isOpen ne_dot ne_dotDot short (Bool.noConfusion ·)
    rw [walked, found] at ends
    cases ends
    exact absurd ⟨_, isLink⟩ noLink
  | enter ne_dot ne_dotDot short _ _ later =>
    obtain ⟨-, rfl⟩ := eq_of_traverse_nil later
    exact .enter leads isOpen ne_dot ne_dotDot short

-- What is neither a directory nor a link is found at an entry of a directory.
theorem IsTree.reaches_of_find (tree : files.IsTree) (found : files.find path false = .ok node)
    (leaf : node.isDirectory = false) (noLink : ¬ node.IsLink) :
    path.endsInSlash = false ∧ ∃ entry, files.Reaches path entry ∧
      files.node? entry = some node := by
  unfold FileSystem.find locate at found
  split at found
  · cases found
  · next place walked =>
    obtain ⟨entry, there⟩ := place
    have isThere := node_of_locateAs walked
    have sound := sound_of_locateAs walked
    rw [locateAs_of_sound sound] at walked
    cases there with
    | none => cases found
    | some there =>
      cases found
      have isEntry : path.endsInSlash = false := by
        rw [Bool.eq_false_iff]
        intro slash
        rw [slash] at walked
        cases leaf.symm.trans (isDirectory_of_walk noLink walked)
      rw [isEntry] at walked
      refine ⟨isEntry, entry, ⟨sound, ?_⟩, isThere.symm⟩
      rcases List.eq_nil_or_concat path.steps with none | ⟨front, name, steps⟩
      · rw [none, walk_eq] at walked
        obtain ⟨same, rfl⟩ := eq_of_traverse_nil walked
        cases leaf.symm.trans (tree.root _ same)
      · rw [List.concat_eq_append] at steps
        rw [steps] at walked
        exact ⟨front, name, steps, tree.leadsInto_of_walk leaf noLink walked⟩

/-! ### New directories -/

/-- A directory has been made under a path, where nothing was. -/
structure Makes (files after : FileSystem) (path : Path) (location : Location)
    (node : FileNode) : Prop where
  vacant : files.node? location = none
  within : ∃ directory name, location = directory ++ [name] ∧ files.IsOpen directory
  located : Located after path location node
  others : ∀ other, other ≠ location → after.node? other = files.node? other

theorem makes_of_makeDirectory (made : files.makeDirectory path = (.ok (), after)) :
    ∃ location node, Makes files after path location node := by
  unfold makeDirectory at made
  split at made
  · cases made
  · next location vacant =>
    have entry := (vacancy_eq_ok vacant).1
    have nothing := node?_of_locateEntry entry
    obtain ⟨-, front, name, -, within⟩ := reaches_of_locateEntry entry
    dsimp only at made
    generalize (0o777 + _ : Nat) = mode at made
    cases made
    -- The walk that found nothing at its end finds the new directory there now.
    have ends : EndsAt (files.create location .directory mode) ⟨location, none⟩ := by
      refine ⟨fun _ wrong => ?_, _, files.node?_put .. |>.trans (if_pos rfl), rfl⟩
      cases wrong
    obtain ⟨node, located⟩ :=
      located_of_locateAs (keeps_create nothing .directory mode) ends entry
    refine ⟨location, node, nothing, ?_, located, fun other differ => ?_⟩
    · obtain ⟨-, isOpen, -⟩ := within
      exact ⟨_, _, rfl, isOpen⟩
    · rw [create, node?_put, if_neg differ]

theorem eq_of_makeDirectory_error {fault : FileFault}
    (refused : files.makeDirectory path = (.error fault, after)) : after = files := by
  unfold makeDirectory at refused
  split at refused
  · cases refused
    rfl
  · cases refused

namespace Makes

theorem grows (makes : Makes files after path location node) : Grows files after where
  kept := by
    intro other old found
    refine ⟨old, ?_, rfl, rfl⟩
    rw [makes.others other, found]
    rintro rfl
    cases makes.vacant.symm.trans found
  new := by
    intro other new found missing
    by_cases same : other = location
    · subst same
      cases makes.located.found.symm.trans found
      exact makes.located.isDirectory
    · rw [makes.others other same] at found
      cases missing.symm.trans found

theorem isTree (makes : Makes files after path location node) (tree : files.IsTree) :
    after.IsTree := by
  have stays (other : Location) (above : FileNode) (isThere : files.node? other = some above) :
      after.node? other = some above := by
    rw [makes.others other, isThere]
    rintro rfl
    cases makes.vacant.symm.trans isThere
  obtain ⟨directory, last, whole, isOpen⟩ := makes.within
  constructor
  · intro root found
    rw [makes.others [] (by simp [whole])] at found
    exact tree.root root found
  · intro place name new found
    by_cases same : place ++ [name] = location
    · obtain ⟨above, isThere, isDirectory, -⟩ := isOpen
      obtain ⟨rfl, -⟩ := List.append_singleton_inj.1 (same.trans whole)
      exact ⟨above, stays place above isThere, isDirectory⟩
    · rw [makes.others _ same] at found
      obtain ⟨above, isThere, isDirectory⟩ := tree.within place name new found
      exact ⟨above, stays place above isThere, isDirectory⟩

-- A new directory is empty.
theorem empty (makes : Makes files after path location node) (tree : files.IsTree) (name : Bytes) :
    after.node? (location ++ [name]) = none := by
  rw [makes.others _ (by simp)]
  exact tree.node?_below makes.vacant name

end Makes

/-! ### Refusals -/

/-- Refuse to make a directory, to set a mode or to listen. Other calls go as the files have it. -/
def refuse (fault : FileFault) : Interaction.Handler FileCall FileCall.Answer FileSystem
  | .makeDirectory _, files => (.error fault, files)
  | .setMode .., files => (.error fault, files)
  | .listen _, files => (.error fault, files)
  | call, files => react call files

/-- What a call can be answered and what it leaves behind, where what can be refused may be. -/
def Answers (call : FileCall) (files : FileSystem) (answer : call.Answer) (after : FileSystem) :
    Prop :=
  files.react call = (answer, after) ∨ ∃ fault, files.refuse fault call = (answer, after)

-- What a run comes to when nothing is refused.
theorem canEnd_of_run {α : Type} {task : FileTask α} {result : α}
    (done : files.run task = (result, after)) : task.CanEnd Answers files result after := by
  have allowed : ∀ call files, Answers call files (react call files).1 (react call files).2 :=
    fun _ _ => .inl rfl
  have ends := Interaction.canEnd_run allowed task files
  rw [FileSystem.run] at done
  rwa [done] at ends

variable {mode inode : Nat}

theorem answers_status {follows : Bool} {answer : Except FileFault FileNode}
    (answered : Answers (.status path follows) files answer after) :
    answer = files.find path follows ∧ after = files := by
  rcases answered with ⟨⟨⟩⟩ | ⟨fault, ⟨⟩⟩ <;> exact ⟨rfl, rfl⟩

theorem answers_unlink {answer : Except FileFault Unit}
    (answered : Answers (.unlink path) files answer after) :
    files.unlink path = (answer, after) := by
  rcases answered with reacts | ⟨fault, reacts⟩ <;> exact reacts

theorem answers_close {answer : Unit} (answered : Answers (.close inode) files answer after) :
    after = files.close inode := by
  rcases answered with ⟨⟨⟩⟩ | ⟨fault, ⟨⟩⟩ <;> rfl

theorem answers_makeDirectory {answer : Except FileFault Unit}
    (answered : Answers (.makeDirectory path) files answer after) :
    (∃ fault, answer = .error fault ∧ after = files) ∨
      answer = .ok () ∧ ∃ location node, Makes files after path location node := by
  rcases answered with reacts | ⟨fault, ⟨⟩⟩
  · have made : files.makeDirectory path = (answer, after) := reacts
    cases answer with
    | error fault => exact .inl ⟨fault, rfl, eq_of_makeDirectory_error made⟩
    | ok _ => exact .inr ⟨rfl, makes_of_makeDirectory made⟩
  · exact .inl ⟨fault, rfl, rfl⟩

theorem eq_of_setMode_error {fault : FileFault}
    (refused : files.setMode path mode = (.error fault, after)) : after = files := by
  unfold setMode at refused
  split at refused
  · cases refused
    rfl
  · split at refused
    · cases refused
    · cases refused
      rfl

theorem modify_of_setMode (changed : files.setMode path mode = (.ok (), after)) :
    ∃ node, files.find path true = .ok node ∧
      after = files.modify node.inode ({ · with mode := mode % 0o10000 }) := by
  unfold setMode at changed
  split at changed
  · cases changed
  · next node found =>
    split at changed
    · cases changed
      exact ⟨node, found, rfl⟩
    · cases changed

theorem answers_setMode {answer : Except FileFault Unit}
    (answered : Answers (.setMode path mode) files answer after) :
    (∃ fault, answer = .error fault ∧ after = files) ∨
      answer = .ok () ∧ files.setMode path mode = (.ok (), after) := by
  rcases answered with reacts | ⟨fault, ⟨⟩⟩
  · have changed : files.setMode path mode = (answer, after) := reacts
    cases answer with
    | error fault => exact .inl ⟨fault, rfl, eq_of_setMode_error changed⟩
    | ok _ => exact .inr ⟨rfl, changed⟩
  · exact .inl ⟨fault, rfl, rfl⟩

theorem eq_of_listen_error {fault : FileFault}
    (refused : files.listen path = (.error fault, after)) : after = files := by
  unfold listen at refused
  split at refused
  · cases refused
    rfl
  · dsimp only at refused
    split at refused
    · cases refused
    · split at refused
      · cases refused
        rfl
      · split at refused
        · cases refused
          rfl
        · cases refused

theorem answers_listen {answer : Except FileFault Nat}
    (answered : Answers (.listen path) files answer after) :
    (∃ fault, answer = .error fault ∧ after = files) ∨
      ∃ number, answer = .ok number ∧ files.listen path = (.ok number, after) := by
  rcases answered with reacts | ⟨fault, ⟨⟩⟩
  · have listened : files.listen path = (answer, after) := reacts
    cases answer with
    | error fault => exact .inl ⟨fault, rfl, eq_of_listen_error listened⟩
    | ok number => exact .inr ⟨number, rfl, listened⟩
  · exact .inl ⟨fault, rfl, rfl⟩

/-! ### Calls that make and change directories -/

theorem answers_builds {call : FileCall} {answer : call.Answer} (builds : call.Builds)
    (answered : Answers call files answer after) :
    Grows files after ∧ (files.IsTree → after.IsTree) := by
  cases call with
  | status path follows =>
    obtain ⟨-, rfl⟩ := answers_status answered
    exact ⟨.refl _, id⟩
  | makeDirectory path =>
    rcases answers_makeDirectory answered with ⟨-, -, rfl⟩ | ⟨-, location, node, makes⟩
    · exact ⟨.refl _, id⟩
    · exact ⟨makes.grows, makes.isTree⟩
  | setMode path mode =>
    rcases answers_setMode answered with ⟨-, -, rfl⟩ | ⟨-, changed⟩
    · exact ⟨.refl _, id⟩
    · obtain ⟨node, -, rfl⟩ := modify_of_setMode changed
      exact ⟨grows_modify _ _, fun tree => tree.modify _ _⟩
  | _ => exact builds.elim

end FileSystem

end TunnelBroker
