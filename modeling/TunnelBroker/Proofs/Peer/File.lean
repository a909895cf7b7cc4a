import TunnelBroker.Proofs.FileSystem.Draft
import TunnelBroker.Proofs.Peer.Codec
import TunnelBroker.Proofs.Peer.Saving
import TunnelBroker.Proofs.Privacy.Directory

/-!
The peer file. What is loaded from a state directory depends on its two entries alone: the
peer file and the draft that is to become it.
-/

set_option autoImplicit false

namespace TunnelBroker

open FileSystem (Located Keeps entryFault?)

/-- Calls that only ask for what a path leads to. -/
def FileCall.Reads (path : Path) : FileCall → Prop
  | user => True
  | status other follows => other = path ∧ follows = true
  | contentOf other => other = path
  | _ => False

namespace Peers

/-- Read the peer file of a directory that is there. -/
def present (directory : Path) : FileTask (Except Failure Peers) := do
  if ← FileTask.exists? (file directory) then read (file directory) else return .ok ∅

variable {files after : FileSystem} {directory : Path} {location : Location} {node : FileNode}
  {peers : Peers}

theorem run_load_of_error {failure : Failure}
    (missing : files.run (Privacy.ensureDirectory directory) = (.error failure, after)) :
    files.run (load directory) = (.error failure, after) := by
  unfold load
  rw [FileSystem.run_bind, missing]
  rfl

theorem run_load_of_ok
    (ensured : files.run (Privacy.ensureDirectory directory) = (.ok (), after)) :
    files.run (load directory) = after.run (present directory) := by
  unfold load
  rw [FileSystem.run_bind, ensured]
  rfl

theorem check_puts (privacy : Privacy) (path : Path) :
    (privacy.check path).Puts (FileCall.Reads path) := by
  refine ⟨⟨rfl, rfl⟩, fun found => ?_⟩
  cases found with
  | error fault => trivial
  | ok node =>
    dsimp only [Interaction.done_bind]
    split
    · trivial
    · refine ⟨trivial, fun user => ?_⟩
      dsimp only [Interaction.done_bind]
      split <;> trivial

theorem read_puts (path : Path) : (read path).Puts (FileCall.Reads path) := by
  refine .bind (check_puts .peerFile path) fun checked => ?_
  cases checked with
  | error failure => trivial
  | ok _ =>
    refine ⟨rfl, fun content => ?_⟩
    cases content with
    | error fault => trivial
    | ok content =>
      dsimp only [Interaction.done_bind]
      split <;> trivial

theorem present_puts (directory : Path) :
    (present directory).Puts (FileCall.Reads (file directory)) := by
  refine .bind ⟨⟨rfl, rfl⟩, fun _ => trivial⟩ fun isThere => ?_
  cases isThere with
  | true => exact read_puts _
  | false => trivial

-- What a user reads depends on what the path of the peer file leads to.
theorem run_present_congr (sameUser : after.user = files.user)
    (sameFile : after.find (file directory) true = files.find (file directory) true) :
    after.run (present directory) = ((files.run (present directory)).1, after) := by
  refine Interaction.run_congr (fun call reads => ?_) (fun call reads => ?_)
    (present_puts directory)
  · cases call <;> first | exact reads.elim | rfl
  · cases call with
    | user => simp [FileSystem.react, sameUser]
    | status path follows =>
      obtain ⟨rfl, rfl⟩ := reads
      simp [FileSystem.react, sameFile]
    | contentOf path =>
      cases reads
      simp [FileSystem.react, FileSystem.contentOf, sameFile]
    | _ => exact reads.elim

/-! ### The entries -/

theorem isName_file : Path.IsName (Path.ofText "peers.json").bytes :=
  ⟨by decide, by decide, by decide, by decide, by decide⟩

theorem isName_newFile : Path.IsName (Path.ofText "peers.json.tmp").bytes :=
  ⟨by decide, by decide, by decide, by decide, by decide⟩

def fileEntry (location : Location) : Location :=
  location ++ [(Path.ofText "peers.json").bytes]

def newFileEntry (location : Location) : Location :=
  location ++ [(Path.ofText "peers.json.tmp").bytes]

theorem fileEntry_ne_newFileEntry (location : Location) :
    fileEntry location ≠ newFileEntry location := by
  intro same
  have names := List.append_cancel_left same
  exact absurd names (by decide)

theorem ne_entry (location : Location) (name : Bytes) : location ≠ location ++ [name] := by
  intro same
  have lengths := congrArg List.length same
  simp at lengths

/--
The entries in a state directory are the broker's own: the peer file is no link, and where
a new one is written there is nothing that can be opened, or what a save left behind that
broke off.
-/
structure IsOwn (files : FileSystem) (directory : Path) : Prop where
  noLink : ∀ place node, files.locateEntry (file directory) = .ok place →
    place.node = some node → ¬ node.IsLink
  drafts : ∀ place node, files.locateEntry (newFile directory) = .ok place →
    place.node = some node → node.isDirectory = true ∨ files.IsDraft place.location node

/-- A machine with an empty state directory `/state`. -/
def emptyState : FileSystem where
  nodes := [([], ⟨0, .directory, 0o755, 0⟩), ([Text.encode "state"], ⟨1, .directory, 0o700, 1000⟩)]
  held := []
  user := 1000

theorem isOwn_emptyState : IsOwn emptyState (.ofText "/state") := by
  have noFile : emptyState.locateEntry (file (.ofText "/state")) =
      .ok ⟨fileEntry [Text.encode "state"], none⟩ := by rfl
  have noNewFile : emptyState.locateEntry (newFile (.ofText "/state")) =
      .ok ⟨newFileEntry [Text.encode "state"], none⟩ := by rfl
  constructor
  · intro place node located found
    cases noFile.symm.trans located
    cases found
  · intro place node located found
    cases noNewFile.symm.trans located
    cases found

/-- A state directory is there, and loading gives the peers that it keeps. -/
structure Holds (files : FileSystem) (directory : Path) (peers : Peers) : Prop where
  isThere : ∃ location node, Located files directory location node ∧ node.isExposed = false
  read : (files.run (present directory)).1 = .ok peers

theorem holds_of_run_load (loaded : files.run (load directory) = (.ok peers, after)) :
    Holds after directory peers := by
  generalize ensured : files.run (Privacy.ensureDirectory directory) = result
  obtain ⟨result, between⟩ := result
  cases result with
  | error failure => cases (run_load_of_error ensured).symm.trans loaded
  | ok _ =>
    rw [run_load_of_ok ensured, run_present_congr rfl rfl] at loaded
    obtain ⟨read, same⟩ := Prod.mk.inj loaded
    exact same ▸ ⟨FileSystem.located_of_ensureDirectory ensured, read⟩

-- What is held is loaded, again and again.
theorem Holds.run_load (holds : Holds files directory peers) :
    files.run (load directory) = (.ok peers, files) := by
  obtain ⟨location, node, located, guarded⟩ := holds.isThere
  rw [run_load_of_ok (FileSystem.run_ensureDirectory located guarded),
    run_present_congr rfl rfl, holds.read]

variable {inode : Nat} {content : Bytes}

theorem locateEntry_file (located : Located files directory location node) :
    files.locateEntry (file directory) =
      match entryFault? (file directory) node with
      | some fault => .error fault
      | none => .ok ⟨fileEntry location, files.node? (fileEntry location)⟩ :=
  located.locateAs_entry isName_file fun _ wrong => nomatch wrong

theorem find_file (located : Located files directory location node)
    (noLink : entryFault? (file directory) node = none →
      ∀ found, files.node? (fileEntry location) = some found → ¬ found.IsLink) :
    files.find (file directory) true =
      match entryFault? (file directory) node, files.node? (fileEntry location) with
      | some fault, _ => .error fault
      | none, none => .error .notFound
      | none, some found => .ok found :=
  located.find_entry isName_file noLink

theorem locateEntry_newFile (located : Located files directory location node) :
    files.locateEntry (newFile directory) =
      match entryFault? (newFile directory) node with
      | some fault => .error fault
      | none => .ok ⟨newFileEntry location, files.node? (newFileEntry location)⟩ :=
  located.locateAs_entry isName_newFile fun _ wrong => nomatch wrong

theorem isOwn_iff (located : Located files directory location node) :
    IsOwn files directory ↔
      (entryFault? (file directory) node = none →
        ∀ found, files.node? (fileEntry location) = some found → ¬ found.IsLink) ∧
      (entryFault? (newFile directory) node = none →
        ∀ found, files.node? (newFileEntry location) = some found →
          found.isDirectory = true ∨ files.IsDraft (newFileEntry location) found) := by
  have atFile := locateEntry_file located
  have atNewFile := locateEntry_newFile located
  constructor
  · intro own
    constructor
    · intro reachable found isThere
      rw [reachable] at atFile
      exact own.noLink _ found atFile isThere
    · intro reachable found isThere
      rw [reachable] at atNewFile
      exact own.drafts _ found atNewFile isThere
  · rintro ⟨noLink, drafts⟩
    constructor
    · intro place found atPlace isThere
      cases reachable : entryFault? (file directory) node with
      | some fault =>
        rw [reachable] at atFile
        cases atFile.symm.trans atPlace
      | none =>
        rw [reachable] at atFile
        cases atFile.symm.trans atPlace
        exact noLink reachable found isThere
    · intro place found atPlace isThere
      cases reachable : entryFault? (newFile directory) node with
      | some fault =>
        rw [reachable] at atNewFile
        cases atNewFile.symm.trans atPlace
      | none =>
        rw [reachable] at atNewFile
        cases atNewFile.symm.trans atPlace
        exact drafts reachable found isThere

/-! ### Saving -/

theorem located_of_drafted (located : Located files directory location node)
    (drafted : files.Drafted after (newFileEntry location) inode content) :
    Located after directory location node := by
  have same := drafted.others location (ne_entry location _)
  exact located.keeps drafted.keeps (same.trans located.found) located.isDirectory

-- Drafting a new peer file leaves the old one alone.
theorem holds_of_drafted (located : Located files directory location node)
    (guarded : node.isExposed = false) (own : IsOwn files directory)
    (read : (files.run (present directory)).1 = .ok peers)
    (drafted : files.Drafted after (newFileEntry location) inode content) :
    Holds after directory peers ∧ IsOwn after directory := by
  have locatedAfter := located_of_drafted located drafted
  have same : after.node? (fileEntry location) = files.node? (fileEntry location) :=
    drafted.others _ (fileEntry_ne_newFileEntry location)
  have noLink := ((isOwn_iff located).1 own).1
  constructor
  · refine ⟨⟨location, node, locatedAfter, guarded⟩, ?_⟩
    rw [run_present_congr drafted.user, read]
    rw [find_file locatedAfter (same ▸ noLink), find_file located noLink, same]
  · refine (isOwn_iff locatedAfter).2 ⟨same ▸ noLink, fun _ found isThere => .inr ?_⟩
    cases drafted.draft.symm.trans isThere
    exact drafted.isDraft

theorem run_present_published (found : files.find (file directory) true =
      .ok (files.draftNode inode (Text.encode peers.text))) :
    (files.run (present directory)).1 = .ok peers := by
  have content : files.contentOf (file directory) = .ok (Text.encode peers.text) := by
    simp [FileSystem.contentOf, found, FileSystem.draftNode, FileNode.isReadable,
      FileNode.ownerBits, Privacy.limit]
  have checked : files.run (Privacy.peerFile.check (file directory)) = (.ok (), files) := by
    unfold Privacy.check
    rw [FileSystem.run_ask, FileSystem.react, found]
    dsimp only [FileSystem.draftNode]
    rw [if_neg (by decide), FileSystem.run_ask]
    exact congrArg files.run (if_pos rfl)
  unfold present
  rw [FileSystem.run_bind, FileSystem.run_exists?, found]
  simp only [Except.toOption, Option.isSome_some, if_true]
  unfold read
  rw [FileSystem.run_bind, checked]
  dsimp only
  rw [FileSystem.run_ask, FileSystem.react, content]
  dsimp only
  rw [Text.decode?_encode, ← parse_text peers]
  rfl

theorem located_of_published (located : Located files directory location node)
    (own : IsOwn files directory) (reachable : entryFault? (file directory) node = none)
    (published : files.Published after (newFileEntry location) (fileEntry location) inode content) :
    Located after directory location node := by
  have noLink := ((isOwn_iff located).1 own).1 reachable
  have same := published.others location (ne_entry location _) (ne_entry location _)
  exact located.keeps (published.keeps noLink) (same.trans located.found) located.isDirectory

theorem noLink_of_published
    (published : files.Published after (newFileEntry location) (fileEntry location) inode content) :
    ∀ found, after.node? (fileEntry location) = some found → ¬ found.IsLink := by
  rintro found isThere ⟨target, isLink⟩
  cases published.isThere.symm.trans isThere
  cases isLink

theorem find_file_of_published (located : Located files directory location node)
    (own : IsOwn files directory) (reachable : entryFault? (file directory) node = none)
    (published : files.Published after (newFileEntry location) (fileEntry location) inode content) :
    after.find (file directory) true = .ok (after.draftNode inode content) := by
  rw [find_file (located_of_published located own reachable published)
      fun _ => noLink_of_published published,
    reachable, published.isThere, FileSystem.draftNode, FileSystem.draftNode, published.user]

-- The new peer file takes the place of the old one.
theorem holds_of_published (located : Located files directory location node)
    (guarded : node.isExposed = false) (own : IsOwn files directory)
    (reachable : entryFault? (file directory) node = none)
    (published : files.Published after (newFileEntry location) (fileEntry location) inode
      (Text.encode peers.text)) :
    Holds after directory peers ∧ IsOwn after directory := by
  have locatedAfter := located_of_published located own reachable published
  -- The name of the draft is free again.
  constructor
  · exact ⟨⟨location, node, locatedAfter, guarded⟩,
      run_present_published (find_file_of_published located own reachable published)⟩
  · refine (isOwn_iff locatedAfter).2
      ⟨fun _ => noLink_of_published published, fun _ found isThere => ?_⟩
    cases published.gone.symm.trans isThere

theorem open_newFile (located : Located files directory location node)
    (own : IsOwn files directory) :
    (∃ inode after,
        files.openFile (newFile directory) true Privacy.peerFile.limit = (.ok inode, after) ∧
        entryFault? (newFile directory) node = none ∧
        files.Drafted after (newFileEntry location) inode []) ∨
      ∃ fault,
        files.openFile (newFile directory) true Privacy.peerFile.limit = (.error fault, files) := by
  have allowed := ((isOwn_iff located).1 own).2
  have entry : files.locateAs (newFile directory) true false = _ :=
    located.locateAs_entry isName_newFile fun reachable _ found isThere => by
      rcases allowed reachable found isThere with isDirectory | isDraft
      · exact FileNode.not_isLink_of_isDirectory isDirectory
      · exact fun isLink => isDraft.not_passable (.inr isLink)
  cases reachable : entryFault? (newFile directory) node with
  | some fault =>
    rw [newFile] at reachable
    rw [reachable] at entry
    refine .inr ⟨fault, ?_⟩
    rw [FileSystem.openFile, entry]
  | none =>
    have allowed := allowed reachable
    rw [newFile] at reachable
    rw [reachable] at entry
    rcases FileSystem.openFile_cases entry allowed with ⟨inode, after, opened, drafted⟩ | refused
    · exact .inl ⟨inode, after, opened, rfl, drafted⟩
    · exact .inr refused

theorem rename_draft (located : Located files directory location node)
    (reachable : entryFault? (newFile directory) node = none)
    (drafted : files.Drafted after (newFileEntry location) inode content) :
    (∃ later, after.rename (newFile directory) (file directory) = (.ok (), later) ∧
        entryFault? (file directory) node = none ∧
        files.Published later (newFileEntry location) (fileEntry location) inode content) ∨
      ∃ fault, after.rename (newFile directory) (file directory) = (.error fault, after) := by
  have locatedAfter := located_of_drafted located drafted
  have atSource := locateEntry_newFile locatedAfter
  rw [reachable] at atSource
  -- The names differ in length, so one may be too long for the directory and not the other.
  have atGoal := locateEntry_file locatedAfter
  have differ := fileEntry_ne_newFileEntry location
  cases fileReachable : entryFault? (file directory) node with
  | some fault =>
    rw [fileReachable] at atGoal
    rcases drafted.rename differ atSource fun place there => nomatch atGoal.symm.trans there with
      ⟨-, -, ⟨place, there⟩, -⟩ | refused
    · cases atGoal.symm.trans there
    · exact .inr refused
  | none =>
    rw [fileReachable] at atGoal
    rcases drafted.rename differ atSource fun place there =>
        (Except.ok.inj (atGoal.symm.trans there)).symm with
      ⟨later, renamed, -, published⟩ | refused
    · exact .inl ⟨later, renamed, rfl, published⟩
    · exact .inr refused

/-! ### Step by step -/

/-- Whether the peer file is there. -/
def IsKept (files : FileSystem) (directory : Path) : Prop :=
  (files.find (file directory) true).toOption.isSome = true

/-- A step of a save: the peer file keeps the old peers or the new ones, and stays there. -/
structure Advances (directory : Path) (old saved : Peers) (files after : FileSystem) : Prop where
  user : after.user = files.user
  kept : IsKept files directory → IsKept after directory
  own : IsOwn after directory
  holds : Holds after directory old ∨ Holds after directory saved

/-- The peers that are kept after a save. -/
def settled (old saved : Peers) : Except Failure Unit → Peers
  | .ok _ => saved
  | .error _ => old

theorem isKept_of_drafted (located : Located files directory location node)
    (own : IsOwn files directory)
    (drafted : files.Drafted after (newFileEntry location) inode content) :
    IsKept after directory ↔ IsKept files directory := by
  have same : after.node? (fileEntry location) = files.node? (fileEntry location) :=
    drafted.others _ (fileEntry_ne_newFileEntry location)
  have noLink := ((isOwn_iff located).1 own).1
  unfold IsKept
  rw [find_file (located_of_drafted located drafted) (same ▸ noLink), find_file located noLink,
    same]

section

variable {later : FileSystem} {saved : Peers}

theorem advances_of_drafted (located : Located files directory location node)
    (guarded : node.isExposed = false) (own : IsOwn files directory)
    (read : (files.run (present directory)).1 = .ok peers) (sameUser : after.user = files.user)
    (kept : IsKept after directory → IsKept files directory)
    (drafted : files.Drafted later (newFileEntry location) inode content) :
    Advances directory peers saved after later := by
  obtain ⟨holds, ownLater⟩ := holds_of_drafted located guarded own read drafted
  refine ⟨drafted.user.trans sameUser.symm, fun isThere => ?_, ownLater, .inl holds⟩
  exact (isKept_of_drafted located own drafted).2 (kept isThere)

theorem advances_of_published (located : Located files directory location node)
    (guarded : node.isExposed = false) (own : IsOwn files directory)
    (reachable : entryFault? (file directory) node = none)
    (published : files.Published later (newFileEntry location) (fileEntry location) inode
      (Text.encode saved.text)) (sameUser : after.user = files.user) :
    Advances directory peers saved after later := by
  obtain ⟨holds, ownLater⟩ := holds_of_published located guarded own reachable published
  refine ⟨published.user.trans sameUser.symm, fun _ => ?_, ownLater, .inr holds⟩
  rw [IsKept, find_file_of_published located own reachable published]
  rfl

end

theorem course_of_isOwn (located : Located files directory location node)
    (own : IsOwn files directory) (text : Bytes) :
    Course files directory text
      (fun inode content now => entryFault? (newFile directory) node = none ∧
        files.Drafted now (newFileEntry location) inode content)
      (fun now => entryFault? (file directory) node = none ∧ ∃ inode,
        files.Published now (newFileEntry location) (fileEntry location) inode text) where
  opens := open_newFile located own
  writes := fun _ _ bytes _ ⟨reachable, drafted⟩ => ⟨reachable, drafted.write bytes⟩
  renames := by
    rintro inode now ⟨reachable, drafted⟩
    rcases rename_draft located reachable drafted with ⟨later, renamed, reachable, published⟩ | refused
    · exact .inl ⟨later, renamed, reachable, inode, published⟩
    · exact .inr refused
  draftedClose := fun inode _ _ ⟨reachable, drafted⟩ =>
    ⟨reachable, drafted.congr (FileSystem.user_close inode) fun _ => rfl⟩
  doneClose := fun inode _ ⟨reachable, _, published⟩ =>
    ⟨reachable, _, published.congr (FileSystem.user_close inode) fun _ => rfl⟩

/-- Saving step by step. What is kept in the end is what `settled` says. -/
theorem steps_save (mishaps : Nat → Option Mishap) (number : Nat)
    (holds : Holds files directory peers) (own : IsOwn files directory) (saved : Peers) :
    (save directory saved).Steps (FileSystem.falter mishaps)
      (fun before now => Advances directory peers saved before.1 now.1)
      (fun result last => IsOwn last.1 directory ∧
        Holds last.1 directory (settled peers saved result))
      (files, number) := by
  obtain ⟨⟨location, node, located, guarded⟩, read⟩ := id holds
  refine ((course_of_isOwn located own _).steps_save mishaps number).imp ?_ ?_
  · rintro ⟨before, _⟩ ⟨now, _⟩ (⟨begun, later⟩ | ⟨⟨-, _, earlier⟩, reachable, _, published⟩)
    · have earlier : before.user = files.user ∧ (IsKept before directory → IsKept files directory) := by
        cases begun with
        | idle => exact ⟨rfl, id⟩
        | drafting drafted => exact ⟨drafted.2.user, (isKept_of_drafted located own drafted.2).1⟩
      rcases later with begun | ⟨reachable, _, published⟩
      · cases begun with
        | idle => exact ⟨earlier.1.symm, earlier.2, own, .inl holds⟩
        | drafting drafted =>
          exact advances_of_drafted located guarded own read earlier.1 earlier.2 drafted.2
      · exact advances_of_published located guarded own reachable published earlier.1
    · exact advances_of_published located guarded own reachable published earlier.user
  · rintro (failure | _) ⟨last, _⟩ outcome
    · cases outcome with
      | idle => exact ⟨own, holds⟩
      | drafting drafted => exact (holds_of_drafted located guarded own read drafted.2).symm
    · obtain ⟨reachable, _, published⟩ := outcome
      exact (holds_of_published located guarded own reachable published).symm

/-- A save that succeeds is what is loaded from then on; one that fails leaves what was there. -/
theorem run_save (mishaps : Nat → Option Mishap) (number : Nat)
    (holds : Holds files directory peers) (own : IsOwn files directory) (saved : Peers) :
    let outcome := (save directory saved).run (FileSystem.falter mishaps) (files, number)
    IsOwn outcome.2.1 directory ∧ Holds outcome.2.1 directory (settled peers saved outcome.1) :=
  (steps_save mishaps number holds own saved).run

end Peers

end TunnelBroker
