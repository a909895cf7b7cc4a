import TunnelBroker.Proofs.Peer.File

/-!
Loading peers while others save theirs. Main statement: what is loaded call by call, with
steps of saves between the calls, is what the peer file keeps when it is read.
-/

set_option autoImplicit false

namespace TunnelBroker.Peers

open FileSystem (Located)

variable {files : FileSystem} {directory : Path} {peers : Peers}

/-- What others may do to a state directory while peers are loaded from it. -/
structure Reliable (directory : Path) (files now : FileSystem) : Prop where
  user : now.user = files.user
  kept : IsKept files directory → IsKept now directory
  holds : ∃ peers, Holds now directory peers

theorem Reliable.trans {between after : FileSystem} (first : Reliable directory files between)
    (second : Reliable directory between after) : Reliable directory files after :=
  ⟨second.user.trans first.user, second.kept ∘ first.kept, second.holds⟩

/-- A peer file whose peers can be read. -/
structure Readable (files : FileSystem) (directory : Path) (peers : Peers) (node : FileNode) :
    Prop where
  found : files.find (file directory) true = .ok node
  guarded : Privacy.peerFile.exceeds node.mode = false
  owned : node.owner = files.user
  content : ∃ content text, files.contentOf (file directory) = .ok content ∧
    Text.decode? content = some text ∧ parse text = .ok peers

theorem Holds.eq_empty (holds : Holds files directory peers) (missing : ¬ IsKept files directory) :
    peers = ∅ := by
  have read := holds.read
  unfold present at read
  rw [FileSystem.run_bind, FileSystem.run_exists?, eq_false_of_ne_true missing] at read
  cases read
  rfl

-- That loading succeeds tells of every check of the file that it passes.
theorem Holds.readable (holds : Holds files directory peers) (kept : IsKept files directory) :
    ∃ node, Readable files directory peers node := by
  have result := holds.read
  unfold present at result
  rw [FileSystem.run_bind, FileSystem.run_exists?, kept] at result
  simp only [if_true] at result
  cases found : files.find (file directory) true with
  | error fault => simp [IsKept, found, Except.toOption] at kept
  | ok node =>
    obtain ⟨quiet, passes⟩ := FileSystem.run_check .peerFile found
    unfold Peers.read at result
    rw [FileSystem.run_bind, quiet] at result
    cases checked : (files.run (Privacy.peerFile.check (file directory))).1 with
    | error failure =>
      rw [checked] at result
      cases result
    | ok _ =>
      obtain ⟨guarded, owned⟩ := passes.1 checked
      rw [checked] at result
      dsimp only at result
      rw [FileSystem.run_ask] at result
      dsimp only [FileSystem.react] at result
      cases content : files.contentOf (file directory) with
      | error fault =>
        rw [content] at result
        cases result
      | ok bytes =>
        rw [content] at result
        dsimp only at result
        cases decoded : Text.decode? bytes with
        | none =>
          rw [decoded] at result
          cases result
        | some text =>
          rw [decoded] at result
          exact ⟨node, found, guarded, owned, bytes, text, content, decoded, result⟩

/-! ### Loading step by step -/

theorem withstands_checkShared (files : FileSystem) :
    (Privacy.checkShared directory).Withstands FileSystem.react (Reliable directory)
      (fun result _ => result = .ok ()) files := by
  apply Interaction.withstands_call
  rintro now ⟨-, -, -, ⟨location, node, located, guarded⟩, -⟩
  refine ⟨rfl, ?_⟩
  dsimp only [FileSystem.react]
  rw [located.find]
  dsimp only
  unfold FileNode.isExposed at guarded
  rw [guarded]
  rfl

theorem withstands_ensureDirectory (files : FileSystem) :
    (Privacy.ensureDirectory directory).Withstands FileSystem.react (Reliable directory)
      (fun result _ => result = .ok ()) files := by
  have isThere : (FileTask.exists? directory).Withstands FileSystem.react (Reliable directory)
      (fun isThere _ => isThere = true) files := by
    apply Interaction.withstands_call
    rintro now ⟨-, -, -, ⟨location, node, located, -⟩, -⟩
    refine ⟨rfl, ?_⟩
    dsimp only [FileSystem.react]
    rw [located.find]
    rfl
  have isDirectory (files : FileSystem) :
      (FileTask.isDirectory directory).Withstands FileSystem.react (Reliable directory)
        (fun isDirectory _ => isDirectory = true) files := by
    apply Interaction.withstands_call
    rintro now ⟨-, -, -, ⟨location, node, located, -⟩, -⟩
    refine ⟨rfl, ?_⟩
    dsimp only [FileSystem.react]
    rw [located.find]
    exact located.isDirectory
  unfold Privacy.ensureDirectory
  refine isThere.bind fun _ now same => ?_
  subst same
  refine (isDirectory now).bind fun _ now same => ?_
  subst same
  exact withstands_checkShared now

theorem withstands_check (kept : IsKept files directory) :
    (Privacy.peerFile.check (file directory)).Withstands FileSystem.react (Reliable directory)
      (fun result now => result = .ok () ∧ IsKept now directory) files := by
  apply Interaction.withstands_call
  rintro now ⟨-, keeps, peers, holds⟩
  obtain ⟨node, readable⟩ := holds.readable (keeps kept)
  refine ⟨rfl, ?_⟩
  dsimp only [FileSystem.react]
  rw [readable.found]
  dsimp only
  rw [readable.guarded]
  apply Interaction.withstands_call
  -- The mode was looked at before, so the owner is that of a node which may be gone by now.
  rintro later ⟨sameUser, keepsLater, -⟩
  refine ⟨rfl, ?_⟩
  have owned : node.owner = (FileSystem.react .user later).1 :=
    readable.owned.trans sameUser.symm
  rw [if_pos owned]
  exact ⟨rfl, keepsLater (keeps kept)⟩

theorem withstands_read (kept : IsKept files directory) :
    (Peers.read (file directory)).Withstands FileSystem.react (Reliable directory)
      (fun result now => ∃ peers, result = .ok peers ∧ Holds now directory peers) files := by
  unfold Peers.read
  refine (withstands_check kept).bind fun result now ⟨passes, kept⟩ => ?_
  subst passes
  apply Interaction.withstands_call
  rintro now ⟨-, keeps, peers, holds⟩
  obtain ⟨node, readable⟩ := holds.readable (keeps kept)
  obtain ⟨bytes, text, content, decoded, parsed⟩ := readable.content
  refine ⟨rfl, ?_⟩
  dsimp only [FileSystem.react]
  rw [content]
  dsimp only
  rw [decoded]
  exact ⟨peers, parsed, holds⟩

/-- What is loaded is what the peer file keeps at the last call. -/
theorem withstands_load (files : FileSystem) :
    (load directory).Withstands FileSystem.react (Reliable directory)
      (fun result now => ∃ peers, result = .ok peers ∧ Holds now directory peers) files := by
  unfold load
  refine (withstands_ensureDirectory files).bind fun result now ensured => ?_
  subst ensured
  have isThere : (FileTask.exists? (file directory)).Withstands FileSystem.react
      (Reliable directory) (fun isThere now => (isThere = true ↔ IsKept now directory) ∧
        ∃ peers, Holds now directory peers) now := by
    apply Interaction.withstands_call
    rintro now ⟨-, -, holds⟩
    exact ⟨rfl, Iff.rfl, holds⟩
  refine isThere.bind fun isThere now ⟨iff, peers, holds⟩ => ?_
  cases isThere with
  | true => exact withstands_read (iff.1 rfl)
  | false =>
    -- No file was there at this very call, so its peers were none.
    have missing : ¬ IsKept now directory := fun kept => nomatch iff.2 kept
    exact ⟨∅, rfl, holds.eq_empty missing ▸ holds⟩

end TunnelBroker.Peers
