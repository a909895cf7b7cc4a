import TunnelBroker.Proofs.FileSystem.Rewriting
import TunnelBroker.Proofs.Peer.File

/-!
Saves that are cut off. The new peer file may be written to a file that is there already, with
any mode. Main statement: wherever a save stops, the peer file is the old one or the whole new
one, and no other file is touched.
-/

set_option autoImplicit false

namespace TunnelBroker.Peers

open FileSystem (Renames Replaced Rewritten)

variable {files now after : FileSystem} {directory : Path} {location : Location} {inode : Nat}
  {content text : Bytes}

theorem bytes_newFile (directory : Path) :
    (newFile directory).bytes = (file directory).bytes ++ (Path.ofText ".tmp").bytes := by
  have name : (Path.ofText "peers.json.tmp").bytes =
      (Path.ofText "peers.json").bytes ++ (Path.ofText ".tmp").bytes := by decide
  have relative : (Path.ofText "peers.json.tmp").isAbsolute =
      (Path.ofText "peers.json").isAbsolute := by decide
  unfold newFile file Path.join
  rw [name, relative]
  split
  · exact name
  · split <;> simp

-- The path of the peer file is in order if the longer one is.
theorem sound_file (sound : FileSystem.pathFault? (newFile directory) = none) :
    FileSystem.pathFault? (file directory) = none := by
  rw [FileSystem.pathFault?_eq_none_iff, bytes_newFile] at sound
  obtain ⟨noNul, -, short⟩ := sound
  rw [List.length_append] at short
  have nonempty : (file directory).bytes ≠ [] := by
    unfold file Path.join
    split
    · decide
    · split <;> simp [isName_file.nonempty]
  rw [FileSystem.pathFault?_eq_none_iff]
  exact ⟨fun nul => noNul (List.mem_append_left _ nul), nonempty, by omega⟩

/-! ### What a save may find -/

/--
Where a new peer file is written there is nothing, or a regular file that is not the peer file
under another name.
-/
structure IsSpare (files : FileSystem) (directory : Path) : Prop where
  isFile : ∀ place node, files.locateEntry (newFile directory) = .ok place →
    place.node = some node → node.IsFile
  apart : ∀ place other, files.locateEntry (newFile directory) = .ok place →
    files.locateEntry (file directory) = .ok other → ¬ files.Shares place.location other.location

/-- The paths of the peer file and of the new one lead to entries of one directory. -/
structure Enters (files : FileSystem) (directory : Path) (location : Location) : Prop where
  file : files.Reaches (file directory) (fileEntry location)
  newFile : files.Reaches (newFile directory) (newFileEntry location)

theorem exists_enters_of_openFile
    (opened : files.openFile (newFile directory) true Privacy.peerFile.limit = (.ok inode, after)) :
    ∃ location, Enters files directory location := by
  obtain ⟨place, located, -, -⟩ := FileSystem.opens_of_openFile opened
  obtain ⟨location, reaches⟩ := FileSystem.exists_reaches_of_locateAs isName_newFile located
  have sound := FileSystem.sound_of_locateAs located
  exact ⟨location, reaches _ isName_file (sound_file sound), reaches _ isName_newFile sound⟩

theorem Enters.keeps (enters : Enters files directory location)
    (keeps : FileSystem.Keeps files after) : Enters after directory location :=
  ⟨enters.file.keeps keeps, enters.newFile.keeps keeps⟩

theorem IsSpare.isFile_of_enters {node : FileNode} (spare : IsSpare files directory)
    (enters : Enters files directory location)
    (found : files.node? (newFileEntry location) = some node) : node.IsFile :=
  spare.isFile _ node enters.newFile.locateEntry found

theorem IsSpare.apart_of_enters (spare : IsSpare files directory)
    (enters : Enters files directory location) :
    ¬ files.Shares (newFileEntry location) (fileEntry location) :=
  spare.apart _ _ enters.newFile.locateEntry enters.file.locateEntry

/-! ### The stages of a save -/

abbrev newNode (files : FileSystem) (location : Location) (content : Bytes) : FileNode :=
  files.rewrittenNode (newFileEntry location) Privacy.peerFile.limit content

/-- The new peer file is being written. -/
def IsDrafted (files : FileSystem) (directory : Path) (inode : Nat) (content : Bytes)
    (now : FileSystem) : Prop :=
  ∃ location, Enters files directory location ∧ inode = (newNode files location content).inode ∧
    Rewritten files now (newFileEntry location) (newNode files location content)

/-- The new peer file is there in place of the old one. -/
def IsDone (files : FileSystem) (directory : Path) (text : Bytes) (now : FileSystem) : Prop :=
  ∃ location, Enters files directory location ∧
    Replaced files now (newFileEntry location) (fileEntry location) (newNode files location text)

theorem rewritten_of_openFile (coherent : files.IsCoherent)
    (opened : files.openFile (newFile directory) true Privacy.peerFile.limit = (.ok inode, now))
    (enters : Enters files directory location)
    (allowed : ∀ node, files.node? (newFileEntry location) = some node → node.IsFile) :
    inode = (newNode files location []).inode ∧
      Rewritten files now (newFileEntry location) (newNode files location []) := by
  obtain ⟨place, located, -, opens⟩ := FileSystem.opens_of_openFile opened
  have entry : files.locateAs (newFile directory) true false =
      .ok ⟨newFileEntry location, files.node? (newFileEntry location)⟩ :=
    enters.newFile.locateAs fun _ node found isLink =>
      (allowed node found).not_passable (.inr isLink)
  cases entry.symm.trans located
  exact opens.rewritten coherent allowed

theorem renames_of_rewritten (enters : Enters files directory location)
    (rewritten : Rewritten files now (newFileEntry location) (newNode files location content))
    (renamed : now.rename (newFile directory) (file directory) = (.ok (), after)) :
    Renames now (newFileEntry location) (newNode files location content)
      ⟨fileEntry location, now.node? (fileEntry location)⟩ after := by
  have entersNow := enters.keeps rewritten.keeps
  obtain ⟨origin, node, place, atSource, found, -, atGoal, renames⟩ :=
    FileSystem.renames_of_rename renamed
  cases entersNow.newFile.locateEntry.symm.trans atSource
  cases entersNow.file.locateEntry.symm.trans atGoal
  cases (rewritten.names _ (.inl rfl)).symm.trans found
  exact renames

theorem course_of_isSpare (coherent : files.IsCoherent) (spare : IsSpare files directory)
    (text : Bytes) :
    Course files directory text (IsDrafted files directory) (IsDone files directory text) where
  opens := by
    rcases outcome : files.openFile (newFile directory) true Privacy.peerFile.limit with
      ⟨fault | inode, after⟩
    · rw [FileSystem.eq_of_openFile_error outcome]
      exact .inr ⟨fault, rfl⟩
    · obtain ⟨location, enters⟩ := exists_enters_of_openFile outcome
      have rewritten := rewritten_of_openFile coherent outcome enters fun _ =>
        spare.isFile_of_enters enters
      exact .inl ⟨inode, after, rfl, location, enters, rewritten⟩
  writes := by
    rintro inode content bytes now ⟨location, enters, rfl, rewritten⟩
    exact ⟨location, enters, FileSystem.inode_rewrittenNode .., rewritten.write bytes⟩
  renames := by
    intro inode now drafted
    rcases outcome : now.rename (newFile directory) (file directory) with ⟨fault | _, after⟩
    · rw [FileSystem.eq_of_rename_error outcome]
      exact .inr ⟨fault, rfl⟩
    · obtain ⟨location, enters, -, rewritten⟩ := drafted
      have renames := renames_of_rewritten enters rewritten outcome
      exact .inl ⟨after, rfl, location, enters,
        rewritten.replaced (spare.apart_of_enters enters) renames⟩
  draftedClose := by
    rintro inode content now ⟨location, enters, same, rewritten⟩
    exact ⟨location, enters, same, rewritten.congr (FileSystem.user_close inode) fun _ => rfl⟩
  doneClose := by
    rintro inode now ⟨location, enters, replaced⟩
    exact ⟨location, enters, replaced.congr (FileSystem.user_close inode) fun _ => rfl⟩

/-! ### What is left of it -/

/-- The peer file is what it was, or missing as it was. -/
def FileKept (files after : FileSystem) (directory : Path) : Prop :=
  after.locateEntry (file directory) = files.locateEntry (file directory)

/--
A regular file with exactly `text` is in the place of the peer file. It is found there, unless
the way to the directory went through the old peer file.
-/
def FileReplaced (files after : FileSystem) (directory : Path) (text : Bytes) : Prop :=
  ∃ location old node, files.locateEntry (file directory) = .ok ⟨location, old⟩ ∧
    after.node? location = some node ∧ node.kind = .file text ∧
    ((∀ link, old = some link → ¬ link.IsLink) →
      after.locateEntry (file directory) = .ok ⟨location, some node⟩)

/-- Nothing has changed but for the peer file and the new one. -/
def OthersKept (files after : FileSystem) (directory : Path) : Prop :=
  ∀ other, (∀ place, files.locateEntry (file directory) = .ok place → other ≠ place.location) →
    (∀ place, files.locateEntry (newFile directory) = .ok place →
      ¬ files.Shares place.location other) →
    after.node? other = files.node? other

theorem kept_of_begun (spare : IsSpare files directory)
    (begun : Begun files (IsDrafted files directory) now) :
    FileKept files now directory ∧ OthersKept files now directory := by
  cases begun with
  | idle => exact ⟨rfl, fun _ _ _ => rfl⟩
  | drafting drafted =>
    obtain ⟨location, enters, -, rewritten⟩ := drafted
    constructor
    · rw [FileKept, (enters.keeps rewritten.keeps).file.locateEntry, enters.file.locateEntry,
        rewritten.others _ (spare.apart_of_enters enters)]
    · intro other _ elsewhere
      exact rewritten.others other (elsewhere _ enters.newFile.locateEntry)

theorem replaced_of_isDone (done : IsDone files directory text now) :
    FileReplaced files now directory text ∧ OthersKept files now directory := by
  obtain ⟨location, enters, replaced⟩ := done
  constructor
  · refine ⟨_, _, _, enters.file.locateEntry, replaced.isThere,
      FileSystem.kind_rewrittenNode .., fun noLink => ?_⟩
    rw [(enters.keeps (replaced.keeps noLink)).file.locateEntry, replaced.isThere]
  · intro other notFile elsewhere
    exact replaced.others other (elsewhere _ enters.newFile.locateEntry)
      (notFile _ enters.file.locateEntry)

/--
Saving is atomic. Any call may fail, a write after any part of the text, and the program may
be gone after any number of calls: the peer file is the old one then or the whole new one,
and no other file is touched. It is the new one exactly if the save has succeeded.
-/
theorem save_is_atomic (coherent : files.IsCoherent) (spare : IsSpare files directory)
    (peers : Peers) (mishaps : Nat → Option Mishap) (number stop : Nat)
    {result : Option (Except Failure Unit)} {last : Nat}
    (cut : (save directory peers).runUpTo (FileSystem.falter mishaps) stop (files, number) =
      (result, after, last)) :
    (FileKept files after directory ∨
        FileReplaced files after directory (Text.encode peers.text)) ∧
      (∀ failure, result = some (.error failure) → FileKept files after directory) ∧
      (result = some (.ok ()) → FileReplaced files after directory (Text.encode peers.text)) ∧
      OthersKept files after directory := by
  have course := course_of_isSpare coherent spare (Text.encode peers.text)
  have steps := (course.steps_save mishaps number).imp (fun _ _ proceeds => proceeds.now)
    (fun _ _ => id)
  have reached := steps.runUpTo (.inl .idle) cut
  cases result with
  | none =>
    rcases reached with begun | done
    · obtain ⟨kept, others⟩ := kept_of_begun spare begun
      exact ⟨.inl kept, nofun, nofun, others⟩
    · obtain ⟨replaced, others⟩ := replaced_of_isDone done
      exact ⟨.inr replaced, nofun, nofun, others⟩
  | some outcome =>
    cases outcome with
    | error failure =>
      obtain ⟨kept, others⟩ := kept_of_begun spare reached
      exact ⟨.inl kept, fun _ _ => kept, nofun, others⟩
    | ok _ =>
      obtain ⟨replaced, others⟩ := replaced_of_isDone reached
      exact ⟨.inr replaced, nofun, fun _ => replaced, others⟩

/-- A state directory with a peer file, and a new one that somebody has left there. -/
def litteredState : FileSystem :=
  { emptyState with
    nodes := emptyState.nodes ++
      [(fileEntry [Text.encode "state"], ⟨2, .file (Text.encode "old"), 0o600, 1000⟩),
        (newFileEntry [Text.encode "state"], ⟨3, .file (Text.encode "left"), 0o644, 1000⟩)] }

theorem isCoherent_litteredState : litteredState.IsCoherent :=
  FileSystem.isCoherent_of_mem (by decide)

theorem locateEntry_litteredState :
    litteredState.locateEntry (file (.ofText "/state")) =
        .ok ⟨fileEntry [Text.encode "state"],
          some ⟨2, .file (Text.encode "old"), 0o600, 1000⟩⟩ ∧
      litteredState.locateEntry (newFile (.ofText "/state")) =
        .ok ⟨newFileEntry [Text.encode "state"],
          some ⟨3, .file (Text.encode "left"), 0o644, 1000⟩⟩ :=
  ⟨rfl, rfl⟩

theorem isSpare_litteredState : IsSpare litteredState (.ofText "/state") := by
  obtain ⟨atFile, atNewFile⟩ := locateEntry_litteredState
  constructor
  · intro place node located found
    cases atNewFile.symm.trans located
    cases found
    exact ⟨_, rfl⟩
  · intro place other located there
    cases atNewFile.symm.trans located
    cases atFile.symm.trans there
    rintro (same | ⟨node, found, atPlace, atOther, same⟩)
    · exact fileEntry_ne_newFileEntry _ same
    · rw [← FileSystem.node_of_locateAs atNewFile] at atPlace
      rw [← FileSystem.node_of_locateAs atFile] at atOther
      cases atPlace
      cases atOther
      exact absurd same (by decide)

/-- The second call, which writes the new file, fails after one byte. -/
def tornWrite (number : Nat) : Option Mishap :=
  if number = 1 then some ⟨.denied, 1⟩ else none

theorem torn_write_keeps_file :
    let cut := (save (.ofText "/state") ∅).runUpTo (FileSystem.falter tornWrite) 2
      (litteredState, 0)
    cut.1 = none ∧
      cut.2.1.node? (newFileEntry [Text.encode "state"]) =
        some ⟨3, .file ((Text.encode (∅ : Peers).text).take 1), 0o644, 1000⟩ ∧
      (FileKept litteredState cut.2.1 (.ofText "/state") ∨
        FileReplaced litteredState cut.2.1 (.ofText "/state") (Text.encode (∅ : Peers).text)) :=
  ⟨rfl, rfl, (save_is_atomic isCoherent_litteredState isSpare_litteredState ∅ tornWrite 0 2 rfl).1⟩

end TunnelBroker.Peers
