import TunnelBroker.Proofs.Peer.Atomic

/-!
Who may use a saved peer file. The mode with which a file is opened counts only when the file
is made. Main statement: a save leaves a private peer file exactly if nothing was left where
the new file is written, or a private file of the user's.
-/

set_option autoImplicit false

namespace TunnelBroker

namespace Privacy

theorem exceeds_peerFile_iff (mode : Nat) : peerFile.exceeds mode = false ↔ mode % 128 = 0 := by
  have bits : (mode % 512) &&& (511 - peerFile.limit) = mode % 512 % 128 :=
    Nat.and_two_pow_sub_one_eq_mod (mode % 512) 7
  unfold exceeds
  rw [bits]
  simp only [bne_eq_false_iff_eq]
  omega

end Privacy

namespace FileSystem

variable {files after : FileSystem} {location : Location} {node : FileNode} {mode inode : Nat}
  {place : Place}

-- Writing leaves alone what is no regular file.
theorem node?_write_of_not_isFile (found : files.node? location = some node)
    (noFile : ¬ node.IsFile) (inode : Nat) (position : WritePosition) (bytes : Bytes) :
    (files.modify inode (writeNode position bytes)).node? location = some node := by
  rw [node?_modify, found, Option.map_some]
  split
  · unfold writeNode
    split
    · next content isFile => exact absurd ⟨content, isFile⟩ noFile
    · rfl
  · rfl

theorem Opens.node?_of_not_isFile {truncates : Bool} (coherent : files.IsCoherent)
    (opens : Opens files truncates mode place inode after)
    (placed : place.node = files.node? place.location)
    (found : files.node? location = some node) (noFile : ¬ node.IsFile) :
    after.node? location = some node := by
  cases opens with
  | created vacant =>
    have differ : location ≠ vacant := by
      rintro rfl
      cases placed.trans found
    rw [node?_hold, create, node?_put, if_neg differ, found]
  | @emptied _ other isFile =>
    have differ : node.inode ≠ other.inode := by
      intro same
      cases coherent _ _ _ _ placed.symm found same
      exact noFile isFile
    rw [node?_modify, node?_hold, found, Option.map_some, if_neg differ]
  | opened => rw [node?_hold, found]

end FileSystem

namespace Peers

open FileSystem (Renames Rewritten)

variable {files after : FileSystem} {directory : Path} {peers : Peers} {location : Location}

/-! ### What a save has done -/

theorem rename_of_run_publish {inode : Nat} {text : Bytes}
    (published : files.run (publish directory inode text) = (.ok (), after)) :
    (files.modify inode (FileSystem.writeNode .start text)).rename (newFile directory)
      (file directory) = (.ok (), after) := by
  unfold publish at published
  rw [FileSystem.run_ask] at published
  dsimp only [FileSystem.react, FileSystem.write] at published
  rw [FileSystem.run_ask] at published
  dsimp only [FileSystem.react, FileSystem.sync] at published
  split at published
  · cases published
  · rw [FileSystem.run_ask] at published
    dsimp only [FileSystem.react] at published
    generalize FileSystem.rename _ _ _ = result at published
    obtain ⟨fault | _, renamed⟩ := result
    · cases published
    · obtain rfl : renamed = after := congrArg Prod.snd published
      rfl

/-- The calls of a save that succeeds. -/
structure Saves (files : FileSystem) (directory : Path) (text : Bytes) (after : FileSystem)
    (inode : Nat) (opened renamed : FileSystem) : Prop where
  opens : files.openFile (newFile directory) true Privacy.peerFile.limit = (.ok inode, opened)
  renames : (opened.modify inode (FileSystem.writeNode .start text)).rename (newFile directory)
    (file directory) = (.ok (), renamed)
  closes : after = renamed.close inode

theorem saves_of_run (saved : files.run (save directory peers) = (.ok (), after)) :
    ∃ inode opened renamed,
      Saves files directory (Text.encode peers.text) after inode opened renamed := by
  unfold save at saved
  rw [FileSystem.run_ask] at saved
  dsimp only [FileSystem.react] at saved
  rcases opens : files.openFile (newFile directory) true Privacy.peerFile.limit with
    ⟨fault | inode, opened⟩
  · rw [opens] at saved
    cases saved
  · rw [opens] at saved
    dsimp only at saved
    rw [FileSystem.run_bind, FileSystem.run_ask] at saved
    obtain ⟨published, closes⟩ := Prod.mk.inj saved
    exact ⟨inode, opened, _, opens, rename_of_run_publish (Prod.ext published rfl), closes.symm⟩

/-! ### Who may use it -/

/--
The peer file is a regular one with exactly `text` that only the user may use, nothing is left
of the new one, and whoever opens the state directory finds nothing wrong with the peer file.
Only if an old peer file was a link that is missing on the way now, there is nothing to open.
-/
structure SavedPrivately (after : FileSystem) (directory : Path) (goal entry : Place)
    (text : Bytes) : Prop where
  isPrivate : ∃ node, after.node? goal.location = some node ∧ node.kind = .file text ∧
    node.mode % 128 = 0 ∧ node.owner = after.user
  noLeftover : after.node? entry.location = none
  passes : (after.run (Privacy.peerFile.check (file directory))).1 = .ok () ∨
    (∃ link, goal.node = some link ∧ link.IsLink) ∧
      ∀ found, after.find (file directory) true ≠ .ok found

/--
What was there before the new file was written: nothing, or a private file of the user's that
is not the peer file under another name.
-/
def IsHarmless (files : FileSystem) (left old : Option FileNode) : Prop :=
  ∀ node, left = some node → node.IsFile ∧ Privacy.peerFile.exceeds node.mode = false ∧
    node.owner = files.user ∧ ∀ other, old = some other → other.inode ≠ node.inode

variable {text : Bytes} {inode : Nat} {opened renamed : FileSystem}

/-- The places of the peer file and of the new one. -/
abbrev filePlace (files : FileSystem) (location : Location) : Place :=
  ⟨fileEntry location, files.node? (fileEntry location)⟩

abbrev newFilePlace (files : FileSystem) (location : Location) : Place :=
  ⟨newFileEntry location, files.node? (newFileEntry location)⟩

-- What is no regular file keeps its entry or moves, and is no regular file in the end.
theorem not_savedPrivately_of_not_isFile (coherent : files.IsCoherent)
    (saves : Saves files directory text after inode opened renamed)
    (enters : Enters files directory location) {left : FileNode}
    (found : files.node? (newFileEntry location) = some left) (noFile : ¬ left.IsFile) :
    ¬ SavedPrivately after directory (filePlace files location) (newFilePlace files location)
      text := by
  obtain ⟨place, located, -, opens⟩ := FileSystem.opens_of_openFile saves.opens
  have stays {location : Location} {node : FileNode} (found : files.node? location = some node)
      (noFile : ¬ node.IsFile) :
      (opened.modify inode (FileSystem.writeNode .start text)).node? location = some node :=
    FileSystem.node?_write_of_not_isFile
      (opens.node?_of_not_isFile coherent (FileSystem.node_of_locateAs located) found noFile)
      noFile inode .start text
  have keeps : FileSystem.Keeps files (opened.modify inode (FileSystem.writeNode .start text)) := by
    intro location node found passable
    exact ⟨node, stays found fun isFile => isFile.not_passable passable, rfl, id⟩
  obtain ⟨origin, node, target, atSource, isNode, -, atGoal, renames⟩ :=
    FileSystem.renames_of_rename saves.renames
  cases (enters.keeps keeps).newFile.locateEntry.symm.trans atSource
  cases (enters.keeps keeps).file.locateEntry.symm.trans atGoal
  cases (stays found noFile).symm.trans isNode
  intro savedPrivately
  cases renames with
  | moved _ =>
    obtain ⟨node, isThere, isFile, -⟩ := savedPrivately.isPrivate
    rw [saves.closes, FileSystem.node?_close, FileSystem.node?_put, if_pos rfl] at isThere
    cases isThere
    exact noFile ⟨text, isFile⟩
  | same _ _ =>
    have isThere := savedPrivately.noLeftover
    rw [saves.closes, FileSystem.node?_close, stays found noFile] at isThere
    cases isThere

-- A file that has the peer file for another name stays where it is.
theorem not_savedPrivately_of_shares
    (saves : Saves files directory text after inode opened renamed) {written : FileSystem}
    (rewritten : Rewritten files written (newFileEntry location) (newNode files location text))
    (renames : Renames written (newFileEntry location) (newNode files location text)
      ⟨fileEntry location, written.node? (fileEntry location)⟩ renamed)
    (shares : files.Shares (newFileEntry location) (fileEntry location)) :
    ¬ SavedPrivately after directory (filePlace files location) (newFilePlace files location)
      text := by
  intro savedPrivately
  cases renames with
  | moved other =>
    exact absurd rfl (other _ (rewritten.names _ shares)).1
  | same _ _ =>
    have isThere := savedPrivately.noLeftover
    rw [saves.closes, FileSystem.node?_close, rewritten.names _ (.inl rfl)] at isThere
    cases isThere

-- Whoever finds a peer file afterwards finds the one that was saved.
theorem find_of_replaced (enters : Enters files directory location)
    (replaced : files.Replaced after (newFileEntry location) (fileEntry location)
      (newNode files location text)) {found : FileNode}
    (there : after.find (file directory) true = .ok found) :
    found = newNode files location text := by
  have isFile : (newNode files location text).IsFile := ⟨_, FileSystem.kind_rewrittenNode ..⟩
  obtain ⟨place, located⟩ := FileSystem.exists_locateAs_of_find there
  have reaches := enters.file.still isName_file (replaced.keeps_before isFile) located
  have saved := reaches.find_of_some (Path.endsInSlash_join isName_file) replaced.isThere
    (fun isLink => isFile.not_passable (.inr isLink)) true
  exact Except.ok.inj (there.symm.trans saved)

theorem exists_find_of_replaced (enters : Enters files directory location)
    (replaced : files.Replaced after (newFileEntry location) (fileEntry location)
      (newNode files location text))
    (noLink : ∀ old, files.node? (fileEntry location) = some old → ¬ old.IsLink) :
    after.find (file directory) true = .ok (newNode files location text) := by
  refine (enters.keeps (replaced.keeps noLink)).file.find_of_some
    (Path.endsInSlash_join isName_file) replaced.isThere ?_ true
  rintro ⟨target, isLink⟩
  rw [FileSystem.kind_rewrittenNode] at isLink
  cases isLink

-- A file of its own is in the place of the peer file then, with the mode and the owner it had.
theorem savedPrivately_iff_of_replaced (enters : Enters files directory location)
    (replaced : files.Replaced after (newFileEntry location) (fileEntry location)
      (newNode files location text)) :
    SavedPrivately after directory (filePlace files location) (newFilePlace files location)
        text ↔
      Privacy.peerFile.exceeds (newNode files location text).mode = false ∧
        (newNode files location text).owner = files.user := by
  have isPrivate := Privacy.exceeds_peerFile_iff (newNode files location text).mode
  rw [← replaced.user]
  constructor
  · intro savedPrivately
    obtain ⟨node, isThere, -, guarded, own⟩ := savedPrivately.isPrivate
    cases isThere.symm.trans replaced.isThere
    exact ⟨isPrivate.2 guarded, own⟩
  · intro guarded
    refine ⟨⟨_, replaced.isThere, FileSystem.kind_rewrittenNode .., isPrivate.1 guarded.1,
      guarded.2⟩, replaced.gone, ?_⟩
    by_cases finds : ∃ found, after.find (file directory) true = .ok found
    · obtain ⟨found, there⟩ := finds
      obtain rfl := find_of_replaced enters replaced there
      exact .inl ((FileSystem.run_check .peerFile there).2.2 guarded)
    · refine .inr ⟨?_, fun found there => finds ⟨found, there⟩⟩
      by_contra noLink
      exact finds ⟨_, exists_find_of_replaced enters replaced fun old found isLink =>
        noLink ⟨old, found, isLink⟩⟩

theorem isHarmless_iff
    (allowed : ∀ node, files.node? (newFileEntry location) = some node → node.IsFile)
    (apart : ¬ files.Shares (newFileEntry location) (fileEntry location)) :
    IsHarmless files (files.node? (newFileEntry location)) (files.node? (fileEntry location)) ↔
      Privacy.peerFile.exceeds (newNode files location text).mode = false ∧
        (newNode files location text).owner = files.user := by
  unfold newNode FileSystem.rewrittenNode
  cases found : files.node? (newFileEntry location) with
  | none =>
    -- A file that is made now has the mode that it is opened with.
    have guarded : Privacy.peerFile.exceeds (Privacy.peerFile.limit &&& 0o7755) = false := by decide
    constructor
    · intro _
      exact ⟨guarded, rfl⟩
    · intro _ _ isThere
      cases isThere
  | some node =>
    constructor
    · intro harmless
      obtain ⟨-, guarded, own, -⟩ := harmless node rfl
      exact ⟨guarded, own⟩
    · rintro ⟨guarded, own⟩ _ ⟨⟩
      exact ⟨allowed node found, guarded, own, fun other isThere same =>
        apart (.inr ⟨node, other, found, isThere, same⟩)⟩

theorem not_isHarmless_of_shares
    (shares : files.Shares (newFileEntry location) (fileEntry location)) :
    ¬ IsHarmless files (files.node? (newFileEntry location))
      (files.node? (fileEntry location)) := by
  rcases shares with same | ⟨node, found, isThere, atFile, same⟩
  · exact absurd same (fileEntry_ne_newFileEntry location)
  · intro harmless
    obtain ⟨-, -, -, apart⟩ := harmless node isThere
    exact apart found atFile same

/--
A save that succeeds leaves a private peer file exactly if it has found nothing where it
writes the new file, or a private regular file of the user's. Whatever else it finds there
becomes the peer file, with the mode and the owner that it had.
-/
theorem saved_privately_iff (coherent : files.IsCoherent)
    (saved : files.run (save directory peers) = (.ok (), after)) :
    ∃ goal entry : Place, files.locateEntry (file directory) = .ok goal ∧
      files.locateEntry (newFile directory) = .ok entry ∧
      (SavedPrivately after directory goal entry (Text.encode peers.text) ↔
        IsHarmless files entry.node goal.node) := by
  obtain ⟨inode, opened, renamed, saves⟩ := saves_of_run saved
  obtain ⟨location, enters⟩ := exists_enters_of_openFile saves.opens
  refine ⟨_, _, enters.file.locateEntry, enters.newFile.locateEntry, ?_⟩
  by_cases allowed : ∀ node, files.node? (newFileEntry location) = some node → node.IsFile
  · obtain ⟨rfl, rewritten⟩ := rewritten_of_openFile coherent saves.opens enters allowed
    have written := rewritten.write (Text.encode peers.text)
    rw [FileSystem.written_nil] at written
    have renames := renames_of_rewritten enters written saves.renames
    by_cases shares : files.Shares (newFileEntry location) (fileEntry location)
    · exact iff_of_false (not_savedPrivately_of_shares saves written renames shares)
        (not_isHarmless_of_shares shares)
    · have replaced : files.Replaced after (newFileEntry location) (fileEntry location)
          (newNode files location (Text.encode peers.text)) := by
        rw [saves.closes]
        exact (written.replaced shares renames).congr rfl fun _ => rfl
      exact (savedPrivately_iff_of_replaced enters replaced).trans
        (isHarmless_iff allowed shares).symm
  · obtain ⟨left, found, noFile⟩ : ∃ left,
        files.node? (newFileEntry location) = some left ∧ ¬ left.IsFile := by
      simpa using allowed
    exact iff_of_false (not_savedPrivately_of_not_isFile coherent saves enters found noFile)
      fun harmless => noFile (harmless left found).1

theorem left_over_mode_is_kept :
    let outcome := litteredState.run (save (.ofText "/state") ∅)
    outcome.1 = .ok () ∧
      outcome.2.node? (fileEntry [Text.encode "state"]) =
        some ⟨3, .file (Text.encode (∅ : Peers).text), 0o644, 1000⟩ ∧
      ¬ SavedPrivately outcome.2 (.ofText "/state")
        (filePlace litteredState [Text.encode "state"])
        (newFilePlace litteredState [Text.encode "state"]) (Text.encode (∅ : Peers).text) := by
  obtain ⟨atFile, atNewFile⟩ := locateEntry_litteredState
  have saved : litteredState.run (save (.ofText "/state") ∅) =
      (.ok (), (litteredState.run (save (.ofText "/state") ∅)).2) := rfl
  obtain ⟨goal, entry, found, left, exactly⟩ :=
    saved_privately_iff isCoherent_litteredState saved
  cases atFile.symm.trans found
  cases atNewFile.symm.trans left
  refine ⟨rfl, rfl, fun isPrivate => ?_⟩
  obtain ⟨-, guarded, -, -⟩ := exactly.1 isPrivate _ rfl
  exact absurd guarded (by decide)

end Peers

end TunnelBroker
